import AccountRegistry.Store.Operation

set_option autoImplicit false

/-!
# Sessions

A caller works with a number of stores, asking one at a time, and keeps the
copies of users which they give it. A copy is the caller's own and may be changed
at any time and in any way.
-/
namespace AccountRegistry

/-- Some stores, and the copies that a caller was given by them, oldest first. -/
structure Session (n : Nat) where
  stores : Fin n → Store
  copies : List Users

namespace Session
variable {n : Nat}

inductive Step (n : Nat) where
  | ask (store : Fin n) (op : Operation)
  | change (copy : Nat) (f : Users → Users)

def start (transforms : Fin n → Transform) : Session n where
  stores i := .ofTransform (transforms i)
  copies := []

def copiesIn : Option Answer → List Users
  | some (.copy users) => [users]
  | _ => []

def outcome? (w : Session n) : Step n → Option (Outcome Answer)
  | .ask i op => some ((w.stores i).perform op)
  | .change _ _ => none

def next (w : Session n) : Step n → Session n
  | .ask i op =>
    let o := (w.stores i).perform op
    { stores := fun j => if j = i then o.store else w.stores j
      copies := w.copies ++ copiesIn o.answer }
  | .change k f => { w with copies := w.copies.modify k f }

def after (w : Session n) (steps : List (Step n)) : Session n := steps.foldl next w

def transcript (w : Session n) : List (Step n) → List (Step n × Option (Outcome Answer))
  | [] => []
  | step :: steps => (step, w.outcome? step) :: (w.next step).transcript steps

end Session
end AccountRegistry
