/-
  VipChannel.Providers.Signature

  The signature of a Bitunix request (`_param_type`, `sign`, adapters/providers/bitunix.py).

  `strOf` is Python's `str` of a parameter's value.
-/
import VipChannel.Lib.Letters
import VipChannel.Lib.Sha1
import VipChannel.Lib.StableSort
import VipChannel.Lib.Text
import VipChannel.Errors

namespace VipChannel.BitunixSigner

open Lib

variable {α : Type} {strOf : α → String} {params : List (String × α)} {name apiSecret : String}

/-- The class of a name that begins with `first`. -/
def charClass (first : Char) : Nat :=
  if isDigits [first] then 1
  else if isLower first then 2
  else 3

/-- `_param_type`: `key[0]` of an empty name raises. -/
def paramType (key : String) : Except PyError Nat :=
  match key.toList with
  | [] => .error ⟨.other "IndexError", "string index out of range"⟩
  | first :: _ => .ok (charClass first)

/-- `sum(ord(c) for c in k)`. -/
def codeSum (key : String) : Nat :=
  (key.toList.map Char.toNat).sum

/-- The key `sorted` compares a name by. -/
def sortKey (key : String) : Except PyError (ℕ ×ₗ ℕ) := do
  let cls ← paramType key
  return toLex (cls, codeSum key)

/-- `sign`.  The dict is its items in the order they were inserted; `sorted` asks for every
    name's key once, and then keeps the order of equal ones. -/
def sign (strOf : α → String) (params : List (String × α)) (apiSecret : String) :
    Except PyError String := do
  let keyed ← params.mapM fun p => do
    return (← sortKey p.1, p)
  let ordered := (sortOn Prod.fst keyed).map Prod.snd
  let concatenated := String.join (ordered.map fun p => strOf p.2)
  return Sha1.hexdigest (Sha1.encode (concatenated ++ apiSecret))

/-- The reference vector: a test of the class and the code sum, and of the digest. -/
example : sign id [("account", "123456789"), ("timestamp", "1700000000")] "SECRET" =
    .ok "af9cc8eb7854b9bb06d18b89f1cec76638139581" := by
  decide +kernel

/-! ## The text that is hashed -/

/-- The key of a name that is not empty. -/
def orderOf (name : String) : ℕ ×ₗ ℕ :=
  toLex ((name.toList.head?.map charClass).getD 0, codeSum name)

theorem sortKey_eq (h : name ≠ "") : sortKey name = .ok (orderOf name) := by
  cases hchars : name.toList with
  | nil => exact absurd (String.toList_eq_nil_iff.mp hchars) h
  | cons first rest =>
    simp only [sortKey, paramType, orderOf, hchars, List.head?_cons, Option.map_some,
      Option.getD_some]
    rfl

/-- The texts of the values, in the order of the names. -/
def signedText (strOf : α → String) (params : List (String × α)) : String :=
  String.join ((sortOn (fun p => orderOf p.1) params).map fun p => strOf p.2)

theorem toList_signedText : (signedText strOf params).toList =
    (sortOn (fun p => orderOf p.1) params).flatMap fun p => (strOf p.2).toList := by
  rw [signedText, String.toList_join, List.flatMap_map]

theorem mapM_sortKey (hnames : ∀ p ∈ params, p.1 ≠ "") :
    (params.mapM fun p => do return (← sortKey p.1, p)) =
      Except.ok (ε := PyError) (params.map fun p => (orderOf p.1, p)) := by
  induction params with
  | nil => rfl
  | cons p params ih =>
    have hkey := sortKey_eq (hnames p List.mem_cons_self)
    have hrest := ih fun q hq => hnames q (List.mem_cons_of_mem p hq)
    rw [List.mapM_cons, hkey, hrest]
    rfl

theorem sign_eq (hnames : ∀ p ∈ params, p.1 ≠ "") :
    sign strOf params apiSecret =
      .ok (Sha1.hexdigest (Sha1.encode (signedText strOf params ++ apiSecret))) := by
  unfold sign
  rw [mapM_sortKey hnames]
  show Except.ok _ = _
  rw [sortOn_map, List.map_map, List.map_map]
  rfl

/-! ## The order of insertion -/

/-- Names of one class and one code sum have values whose texts commute. -/
def TiedValuesCommute (strOf : α → String) (params : List (String × α)) : Prop :=
  TiesCommute (fun p => orderOf p.1) (fun p => (strOf p.2).toList) params

/-- The order of insertion does not matter where the values of tied names commute; where
    they do not, two orders are signed over different texts. -/
theorem sign_insertion_order (strOf : α → String) (params : List (String × α))
    (apiSecret : String) (hnames : ∀ p ∈ params, p.1 ≠ "") :
    (TiedValuesCommute strOf params →
      ∀ order, order.Perm params → sign strOf order apiSecret = sign strOf params apiSecret) ∧
    (¬ TiedValuesCommute strOf params →
      ∃ order order' text text', order.Perm params ∧ order'.Perm params ∧ text ≠ text' ∧
        sign strOf order apiSecret = .ok (Sha1.hexdigest (Sha1.encode text)) ∧
        sign strOf order' apiSecret = .ok (Sha1.hexdigest (Sha1.encode text'))) := by
  have hsigned : ∀ order : List (String × α), order.Perm params →
      sign strOf order apiSecret =
        .ok (Sha1.hexdigest (Sha1.encode (signedText strOf order ++ apiSecret))) :=
    fun order hperm => sign_eq fun p hp => hnames p (hperm.mem_iff.mp hp)
  constructor
  · intro hties order hperm
    have htext : signedText strOf params = signedText strOf order := by
      apply String.toList_injective
      rw [toList_signedText, toList_signedText]
      exact flatMap_sortOn_eq hperm.symm hties
    rw [hsigned order hperm, hsigned params (.refl params), htext]
  · intro hties
    obtain ⟨order, order', hperm, hperm', hne⟩ := exists_flatMap_sortOn_ne hties
    refine ⟨order, order', _, _, hperm, hperm', ?_, hsigned order hperm, hsigned order' hperm'⟩
    intro heq
    apply hne
    have htext := congrArg String.toList heq
    rw [String.toList_append, String.toList_append] at htext
    rw [← toList_signedText, ← toList_signedText]
    exact List.append_cancel_right htext

/-- The test's pair: no two names are tied. -/
theorem account_and_timestamp_in_any_order :
    sign id [("timestamp", "B"), ("account", "A")] "s" =
      sign id [("account", "A"), ("timestamp", "B")] "s" := by
  have hnames : ∀ p ∈ [("account", "A"), ("timestamp", "B")], p.1 ≠ "" := by decide
  refine (sign_insertion_order id _ "s" hnames).1 ?_ _ (List.Perm.swap _ _ _)
  have hkeys : orderOf "account" ≠ orderOf "timestamp" := by decide +kernel
  refine List.Pairwise.cons ?_ (List.pairwise_singleton _ _)
  intro p hp heq
  cases List.mem_singleton.mp hp
  exact absurd heq hkeys

/-- `ab` and `ba` have one class and one code sum. -/
theorem anagrams_are_signed_as_they_come :
    ¬ ∀ (params order : List (String × String)) (apiSecret : String),
      (params.map Prod.fst).Nodup → (∀ p ∈ params, p.1 ≠ "") → order.Perm params →
      sign id order apiSecret = sign id params apiSecret := by
  intro h
  have hsame := h [("ab", "1"), ("ba", "2")] [("ba", "2"), ("ab", "1")] "s" (by decide)
    (by decide) (List.Perm.swap _ _ _)
  revert hsame
  decide +kernel

end VipChannel.BitunixSigner
