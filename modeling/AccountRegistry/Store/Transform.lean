import AccountRegistry.Config.Basic

set_option autoImplicit false

/-!
# Transforms

How a store derives the credential it keeps from a secret. A transform depends
on nothing but the secret, and may break off instead of giving a credential.
-/
namespace AccountRegistry
open AccountRegistry.Text

/-- The credential of a secret; none if deriving it breaks off. -/
abbrev Transform := String → Option String

/-- Appends a fixed text to the secret. This marks a credential and hides nothing. -/
structure SuffixTransform where
  suffix : String
deriving DecidableEq, Repr

namespace SuffixTransform

def default : SuffixTransform := ⟨defaultCredentialSuffix⟩

instance : Inhabited SuffixTransform := ⟨default⟩

def derive (t : SuffixTransform) (secret : String) : String := secret ++ t.suffix

def description (t : SuffixTransform) : String :=
  describe "SuffixTransform" [("suffix", quote t.suffix)]

end SuffixTransform

namespace Transform

def suffix (t : SuffixTransform) : Transform := fun secret => some (t.derive secret)

def reversing : Transform := fun secret => some (String.ofList secret.toList.reverse)

def constant (credential : String) : Transform := fun _ => some credential

def byteLength : Transform := fun secret => some (Digits.decimal secret.utf8ByteSize)

def refusing (start suffix : String) : Transform := fun secret =>
  if start.toList.isPrefixOf secret.toList then none else some (secret ++ suffix)

end Transform
end AccountRegistry
