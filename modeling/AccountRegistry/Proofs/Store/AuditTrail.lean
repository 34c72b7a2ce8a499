import Mathlib.Data.List.Nodup
import AccountRegistry.Proofs.Store.Recovery

set_option autoImplicit false

/-!
# The log as an audit trail

The text of a record says what happened to whom, and no name can make it say
anything else. Read back, the log of a run has the users in the order in which
they came, every answer about a user, and every access to a store after it was
poisoned.
-/
namespace AccountRegistry
open AccountRegistry.Log (Record)

inductive Topic where
  | registered
  | rejected
  | authenticated (accepted : Bool)
  | recovered
deriving DecidableEq, Repr

namespace Topic

def start : Topic → String
  | .registered => "DEBUG Registered user: "
  | .rejected => "DEBUG Registration rejected, user already exists: "
  | .authenticated _ => "DEBUG Authentication for "
  | .recovered => "WARN Credential store lock was poisoned, recovering for "

def finish : Topic → String
  | .authenticated true => ": accepted"
  | .authenticated false => ": rejected"
  | _ => ""

def text (topic : Topic) (name : String) : String := topic.start ++ name ++ topic.finish

/-- The name in a text on a topic; none if the text is on another one. -/
def name? (topic : Topic) (text : String) : Option String := do
  let rest ← text.toList.dropPrefix? topic.start.toList
  let name ← rest.dropSuffix? topic.finish.toList
  return String.ofList name

def names (topic : Topic) (log : List String) : List String := log.filterMap topic.name?

theorem toList_text (topic : Topic) (name : String) :
    (topic.text name).toList = topic.start.toList ++ (name.toList ++ topic.finish.toList) := by
  simp [text, List.append_assoc]

theorem name?_eq_some {topic : Topic} {text name : String} :
    topic.name? text = some name ↔ text = topic.text name := by
  rw [← String.toList_inj, toList_text]
  simp only [name?, Option.bind_eq_bind, Option.bind_eq_some_iff, Option.pure_def,
    Option.some.injEq, List.dropPrefix?_eq_some_iff, List.dropSuffix?_eq_some_iff, beq_iff_eq,
    exists_eq_right]
  constructor
  · rintro ⟨rest, htext, chars, rfl, rfl⟩
    rw [htext, String.toList_ofList]
  · intro htext
    exact ⟨_, htext, name.toList, rfl, String.ofList_toList⟩

theorem eq_of_comparable (a b : Topic)
    (hstart : a.start.toList <+: b.start.toList ∨ b.start.toList <+: a.start.toList)
    (hfinish : a.finish.toList <:+ b.finish.toList ∨ b.finish.toList <:+ a.finish.toList) :
    a = b := by
  revert hstart hfinish
  rcases a with _ | _ | (_ | _) | _ <;> rcases b with _ | _ | (_ | _) | _ <;> decide

theorem text_inj {a b : Topic} {u v : String} : a.text u = b.text v ↔ a = b ∧ u = v := by
  constructor
  · intro h
    have hchars := congrArg String.toList h
    rw [toList_text, toList_text] at hchars
    have hstart := List.prefix_or_prefix_of_prefix (List.prefix_append _ _)
      (hchars ▸ List.prefix_append _ _)
    rw [← List.append_assoc, ← List.append_assoc] at hchars
    have hfinish := List.suffix_or_suffix_of_suffix (List.suffix_append _ _)
      (hchars ▸ List.suffix_append _ _)
    obtain rfl := eq_of_comparable a b hstart.symm hfinish.symm
    simpa [String.toList_inj] using hchars
  · rintro ⟨rfl, rfl⟩
    rfl

/-- A name that looks like an end is read as a name. -/
example : let text := "DEBUG Authentication for ann: accepted: rejected"
    name? (.authenticated true) text = none ∧
      name? (.authenticated false) text = some "ann: accepted" := by decide +kernel

theorem name?_text (a b : Topic) (u : String) :
    a.name? (b.text u) = if b = a then some u else none := by
  split
  · next h => exact h ▸ name?_eq_some.2 rfl
  · next h =>
    refine Option.eq_none_iff_forall_ne_some.2 fun v hv => h ?_
    exact (text_inj.1 (name?_eq_some.1 hv)).1

theorem names_append (topic : Topic) (xs ys : List String) :
    topic.names (xs ++ ys) = topic.names xs ++ topic.names ys :=
  List.filterMap_append

theorem mem_names {topic : Topic} {log : List String} {u : String} :
    u ∈ topic.names log ↔ topic.text u ∈ log := by
  simp [names, name?_eq_some]

theorem count_names (topic : Topic) (log : List String) (u : String) :
    (topic.names log).count u = log.count (topic.text u) := by
  rw [names, List.count_filterMap]
  refine List.countP_congr fun text _ => ?_
  simp [name?_eq_some]

end Topic

namespace Event

def topic : Event → Topic
  | .recovered _ => .recovered
  | .registered _ => .registered
  | .rejected _ => .rejected
  | .authenticated _ accepted => .authenticated accepted

def name : Event → String
  | .recovered access => access.verb
  | .registered username | .rejected username | .authenticated username _ => username

theorem brief_record (e : Event) : e.record.brief = e.topic.text e.name := by
  cases e with
  | recovered access => cases access <;> decide +kernel
  | registered u =>
    change "DEBUG" ++ " " ++ ("Registered user: " ++ u) = "DEBUG Registered user: " ++ u ++ ""
    simp only [← String.append_assoc, String.reduceAppend, String.append_empty]
  | rejected u =>
    change "DEBUG" ++ " " ++ ("Registration rejected, user already exists: " ++ u) =
      "DEBUG Registration rejected, user already exists: " ++ u ++ ""
    simp only [← String.append_assoc, String.reduceAppend, String.append_empty]
  | authenticated u accepted =>
    have hbetween (verdict : String) : "DEBUG" ++ " " ++ ("Authentication for " ++ u ++ ": " ++
        verdict) = "DEBUG Authentication for " ++ u ++ (": " ++ verdict) := by
      simp only [← String.append_assoc, String.reduceAppend]
    cases accepted with
    | true => exact hbetween "accepted"
    | false => exact hbetween "rejected"

theorem topic_name_injective {e e' : Event} (htopic : e.topic = e'.topic)
    (hname : e.name = e'.name) : e = e' := by
  cases e <;> cases e' <;> simp_all [topic, name]
  next a b => revert hname; cases a <;> cases b <;> decide

theorem brief_injective : Function.Injective fun e : Event => e.record.brief := by
  intro e e' h
  simp only [brief_record] at h
  obtain ⟨htopic, hname⟩ := Topic.text_inj.1 h
  exact topic_name_injective htopic hname

end Event

def Topic.told? (topic : Topic) (e : Event) : Option String :=
  if e.topic = topic then some e.name else none

theorem Topic.names_brief (topic : Topic) (es : List Event) :
    topic.names ((es.map Event.record).map Record.brief) = es.filterMap topic.told? := by
  rw [names, List.map_map, List.filterMap_map]
  refine List.filterMap_congr fun e _ => ?_
  rw [Function.comp_apply, Function.comp_apply, Event.brief_record, name?_text, told?]

namespace Store

def logged (s : Store) (ops : List Operation) : List String :=
  (logOf (s.transcript ops)).map Record.brief

theorem logged_cons (s : Store) (op : Operation) (ops : List Operation) :
    s.logged (op :: ops) =
      (s.perform op).records.map Record.brief ++ (s.perform op).store.logged ops := by
  rw [logged, transcript_cons, logOf, List.flatMap_cons, List.map_append]
  rfl

/-- The user for whom an answer settles a topic. -/
def settled? : Topic → Operation × Outcome Answer → Option String
  | .registered, (_, ⟨some (.registered r), _, _⟩) => some r.username
  | .rejected, (_, ⟨some (.refused (.duplicateUser u)), _, _⟩) => some u
  | .authenticated accepted, (.authenticate u _, ⟨some (.verdict verdict), _, _⟩) =>
    if verdict = accepted then some u else none
  | _, _ => none

theorem settled?_of_look {users : Users} {op : Operation} {answer : Answer}
    (h : look? users op = some answer) (topic : Topic) (events : List Event) (s : Store) :
    settled? topic (op, ⟨some answer, events, s⟩) = none := by
  cases op with
  | register u p => cases h
  | authenticate u p => cases h
  | _ => cases h; cases topic <;> rfl

section Steps
variable (s : Store) (op : Operation)

theorem recovery_told (topic : Topic) (access : Access) :
    (s.recovery access).filterMap topic.told? =
      if s.poisoned = true ∧ topic = .recovered then [access.verb] else [] := by
  by_cases hs : s.poisoned = true <;> by_cases ht : topic = .recovered <;>
    simp [recovery, Topic.told?, Event.topic, Event.name, hs, ht, eq_comm]

theorem events_settled {topic : Topic} (htopic : topic ≠ .recovered) :
    (s.perform op).events.filterMap topic.told? = (settled? topic (op, s.perform op)).toList := by
  have hsilent (access : Access) : (s.recovery access).filterMap topic.told? = [] := by
    rw [recovery_told, if_neg fun h => htopic h.2]
  have hone (access : Access) (e : Event) :
      (s.recovery access ++ [e]).filterMap topic.told? = (topic.told? e).toList := by
    rw [List.filterMap_append, hsilent, List.nil_append]
    cases h : topic.told? e <;> simp [h]
  have hp := s.performs op
  generalize s.perform op = o at hp ⊢
  cases hp with
  | refuses taken =>
    rw [hone]
    cases topic <;> rfl
  | accepts free derives =>
    rw [hone]
    cases topic <;> rfl
  | misses unknown =>
    rw [hone]
    cases topic <;> simp [settled?, Topic.told?, Event.topic, Event.name]
  | compares known derives =>
    rw [hone]
    cases topic <;> simp [settled?, Topic.told?, Event.topic, Event.name]
  | looks sees => rw [hsilent, settled?_of_look sees, Option.toList_none]
  | _ =>
    rw [hsilent]
    cases topic <;> rfl

theorem events_recovered : (s.perform op).events.filterMap Topic.recovered.told? =
    if s.poisoned = true then [op.access.verb] else [] := by
  have htelling (a : Answer) : (Concurrent.telling op a).filterMap Topic.recovered.told? = [] := by
    unfold Concurrent.telling
    split <;> rfl
  rw [events_perform, List.filterMap_append, recovery_told]
  cases (s.perform op).answer <;> simp [htelling]

end Steps

section Users
variable {s : Store} {op : Operation} {u : String}

theorem settled_registered : settled? .registered (op, s.perform op) = some u ↔
    u ∉ s.users ∧ u ∈ (s.perform op).store.users := by
  have hp := s.performs op
  generalize s.perform op = o at hp ⊢
  cases hp with
  | @accepts v p credential free derives =>
    have hv : v ∉ s.users := by simpa using free
    simp only [settled?, Registration.of, Option.some.injEq, Std.ExtTreeMap.mem_insert,
      Std.LawfulEqCmp.compare_eq_iff_eq]
    constructor
    · rintro rfl
      exact ⟨hv, .inl rfl⟩
    · rintro ⟨hu, hsame | hmem⟩
      · exact hsame
      · exact absurd hmem hu
  | looks sees => simp [settled?_of_look sees]
  | _ => simp [settled?]

theorem mem_perform : u ∈ (s.perform op).store.users ↔
    u ∈ s.users ∨ settled? .registered (op, s.perform op) = some u := by
  have hkept (h : u ∈ s.users) : u ∈ (s.perform op).store.users := by
    rw [Std.ExtTreeMap.mem_iff_isSome_getElem?] at h ⊢
    rw [users_perform, Option.isSome_or, h, Bool.true_or]
  rw [settled_registered]
  by_cases hu : u ∈ s.users
  · exact iff_of_true (hkept hu) (.inl hu)
  · exact ⟨fun h => .inr ⟨hu, h⟩, fun h => (h.resolve_left hu).2⟩

theorem mem_of_settled {topic : Topic} (htopic : topic = .rejected ∨ topic = .authenticated true)
    (h : settled? topic (op, s.perform op) = some u) : u ∈ s.users := by
  have hp := s.performs op
  generalize s.perform op = o at hp h
  cases hp with
  | @refuses v p stored taken =>
    obtain rfl | rfl := htopic
    · cases h
      exact Std.ExtTreeMap.mem_iff_isSome_getElem?.2 (by rw [taken]; rfl)
    · cases h
  | @compares v p stored credential known derives =>
    obtain rfl | rfl := htopic
    · cases h
    · obtain ⟨-, rfl⟩ := by simpa [settled?] using h
      exact Std.ExtTreeMap.mem_iff_isSome_getElem?.2 (by rw [known]; rfl)
  | looks sees =>
    rw [settled?_of_look sees] at h
    cases h
  | _ => obtain rfl | rfl := htopic <;> cases h

end Users

def breaks (s : Store) : Operation → Bool
  | .register u p => s.users[u]?.isNone && (s.transform p).isNone
  | _ => false

/-- The operations after the first one that registers a free name and breaks off. -/
def sinceBroken (s : Store) : List Operation → List Operation
  | [] => []
  | op :: ops => if s.breaks op then ops else (s.perform op).store.sinceBroken ops

theorem poisoned_eq (s : Store) (op : Operation) :
    (s.perform op).store.poisoned = (s.poisoned || s.breaks op) := by
  rw [Bool.eq_iff_iff, poisoned_perform, Bool.or_eq_true]
  refine or_congr_right ?_
  cases op <;> simp [breaks]

theorem names_cons (topic : Topic) (s : Store) (op : Operation) (ops : List Operation) :
    topic.names (s.logged (op :: ops)) = (s.perform op).events.filterMap topic.told? ++
      topic.names ((s.perform op).store.logged ops) := by
  rw [logged_cons, Topic.names_append, Outcome.records, Topic.names_brief]

section Runs
variable (s : Store) (ops : List Operation)

theorem names_answered {topic : Topic} (htopic : topic ≠ .recovered) :
    topic.names (s.logged ops) = (s.transcript ops).filterMap (settled? topic) := by
  induction ops generalizing s with
  | nil => rfl
  | cons op ops ih =>
    rw [names_cons, transcript_cons, events_settled s op htopic, ih]
    cases h : settled? topic (op, s.perform op) <;> simp [h]

theorem names_warned : Topic.recovered.names (s.logged ops) =
    (if s.poisoned then ops else s.sinceBroken ops).map (·.access.verb) := by
  induction ops generalizing s with
  | nil => cases s.poisoned <;> rfl
  | cons op ops ih =>
    -- the operation that poisons the store still finds it sound
    rw [names_cons, events_recovered, ih, poisoned_eq]
    cases s.poisoned <;> cases hb : s.breaks op <;> simp [sinceBroken, hb]

theorem mem_users_after (u : String) : u ∈ (s.after ops).users ↔
    u ∈ s.users ∨ u ∈ Topic.registered.names (s.logged ops) := by
  induction ops generalizing s with
  | nil => simp [after, logged, transcript, performAll, logOf, Topic.names]
  | cons op ops ih =>
    rw [names_cons, events_settled s op (by decide), List.mem_append, Option.mem_toList, ← or_assoc,
      ← mem_perform]
    exact ih _

theorem registered_nodup : (Topic.registered.names (s.logged ops)).Nodup ∧
    ∀ u ∈ Topic.registered.names (s.logged ops), u ∉ s.users := by
  induction ops generalizing s with
  | nil => exact ⟨.nil, fun u hu => by cases hu⟩
  | cons op ops ih =>
    obtain ⟨hrest, hnew⟩ := ih (s.perform op).store
    have hlater : ∀ u ∈ Topic.registered.names ((s.perform op).store.logged ops), u ∉ s.users :=
      fun u hu hmem => hnew u hu (mem_perform.2 (.inl hmem))
    rw [names_cons, events_settled s op (by decide)]
    -- whom this operation registers no later one does, since the store then holds the name
    cases h : settled? .registered (op, s.perform op) with
    | none => exact ⟨hrest, hlater⟩
    | some v =>
      obtain ⟨hfree, hheld⟩ := settled_registered.1 h
      refine ⟨List.nodup_cons.2 ⟨fun hv => hnew v hv hheld, hrest⟩, fun u hu => ?_⟩
      obtain rfl | hu := List.mem_cons.1 hu
      · exact hfree
      · exact hlater u hu

theorem registered_before {topic : Topic}
    (htopic : topic = .rejected ∨ topic = .authenticated true) {u : String} {k : Nat}
    (h : (s.logged ops)[k]? = some (topic.text u)) :
    u ∈ s.users ∨ Topic.registered.text u ∈ (s.logged ops).take k := by
  have hne : topic ≠ .recovered := by
    rintro rfl
    obtain h | h := htopic <;> cases h
  induction ops generalizing s k with
  | nil => cases h
  | cons op ops ih =>
    have htold {topic : Topic} (hne : topic ≠ .recovered) :
        topic.text u ∈ (s.perform op).records.map Record.brief ↔
          settled? topic (op, s.perform op) = some u := by
      rw [← Topic.mem_names, Outcome.records, Topic.names_brief, events_settled s op hne,
        Option.mem_toList]
    rw [logged_cons] at h ⊢
    -- the record is one of this operation, or one of a later operation
    obtain hk | hk := Nat.lt_or_ge k ((s.perform op).records.map Record.brief).length
    · rw [List.getElem?_append_left hk] at h
      exact .inl (mem_of_settled htopic ((htold hne).1 (List.mem_of_getElem? h)))
    · obtain ⟨j, rfl⟩ := Nat.exists_eq_add_of_le hk
      rw [List.getElem?_append_right hk, Nat.add_sub_cancel_left] at h
      rw [List.take_length_add_append, List.mem_append, htold (by decide), ← or_assoc,
        ← mem_perform]
      exact ih _ h

end Runs

theorem logged_append (s : Store) (xs ys : List Operation) :
    s.logged (xs ++ ys) = s.logged xs ++ (s.after xs).logged ys := by
  induction xs generalizing s with
  | nil => rfl
  | cons op xs ih =>
    rw [List.cons_append, logged_cons, logged_cons, ih, List.append_assoc]
    rfl

/-- An operation that breaks off may tell of a recovery, and tells of nothing else. -/
theorem silent_of_broken {s : Store} {op : Operation} (h : (s.perform op).answer = none) :
    ∀ r ∈ (s.perform op).records, r.level = .warn := by
  intro r hr
  rw [records_perform, h] at hr
  obtain ⟨e, he, rfl⟩ := List.mem_map.1 (by simpa [toldOf] using hr)
  unfold recovery at he
  split at he
  · rw [List.mem_singleton.1 he]
    rfl
  · cases he

/-- A log that agrees with the answers of a run over an empty store. -/
structure AuditTrail (t : Transform) (ops : List Operation) (log : List String) : Prop where
  settled : ∀ topic, topic ≠ .recovered →
    topic.names log = ((ofTransform t).transcript ops).filterMap (settled? topic)
  distinct : (Topic.registered.names log).Nodup
  users : ∀ u, u ∈ Topic.registered.names log ↔ u ∈ ((ofTransform t).after ops).users
  follows : ∀ topic : Topic, topic = .rejected ∨ topic = .authenticated true → ∀ u k,
    log[k]? = some (topic.text u) →
      Topic.registered.text u ∈ log.take k ∧ log.count (Topic.registered.text u) = 1
  silent : ∀ x ∈ (ofTransform t).transcript ops, x.2.answer = none →
    ∀ r ∈ x.2.records, r.level ≠ .debug
  warned : Topic.recovered.names log = ((ofTransform t).sinceBroken ops).map (·.access.verb)
  legible : ∀ text ∈ log, ∃! about : Topic × String, text = about.1.text about.2

theorem auditTrail (t : Transform) (ops : List Operation) :
    AuditTrail t ops ((ofTransform t).logged ops) where
  settled topic htopic := names_answered _ ops htopic
  distinct := (registered_nodup _ ops).1
  users u := by
    rw [mem_users_after]
    simp [ofTransform]
  follows topic htopic u k hk := by
    have hbefore := (registered_before _ ops htopic hk).resolve_left (by simp [ofTransform])
    refine ⟨hbefore, ?_⟩
    rw [← Topic.count_names]
    exact List.count_eq_one_of_mem (registered_nodup _ ops).1
      (Topic.mem_names.2 (List.mem_of_mem_take hbefore))
  silent x hx hnone r hr := by
    obtain ⟨op, o⟩ := x
    obtain ⟨earlier, later, rfl, rfl⟩ := mem_transcript.1 hx
    rw [silent_of_broken hnone r hr]
    decide
  warned := names_warned _ ops
  legible text htext := by
    obtain ⟨r, hr, rfl⟩ := List.mem_map.1 htext
    obtain ⟨x, -, hx⟩ := List.mem_flatMap.1 hr
    obtain ⟨e, -, rfl⟩ := List.mem_map.1 hx
    refine ⟨(e.topic, e.name), e.brief_record, fun about habout => ?_⟩
    obtain ⟨htopic, hname⟩ := Topic.text_inj.1 (e.brief_record.symm.trans habout)
    exact Prod.ext htopic.symm hname.symm

/-- At every point of a run over an empty store the log is an audit trail of what was done so far.
Nothing is taken back later, and no two events leave the same text. -/
theorem log_faithful :
    (∀ (t : Transform) (ops : List Operation) (k : Nat),
      AuditTrail t (ops.take k) ((ofTransform t).logged (ops.take k)) ∧
        (ofTransform t).logged (ops.take k) <+: (ofTransform t).logged ops) ∧
    Function.Injective fun e : Event => e.record.brief := by
  refine ⟨fun t ops k => ⟨auditTrail t _, ?_⟩, Event.brief_injective⟩
  rw [← List.take_append_drop k ops, logged_append, List.take_append_drop]
  exact List.prefix_append _ _

end Store
end AccountRegistry
