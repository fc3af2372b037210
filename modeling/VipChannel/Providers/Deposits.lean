/-
  VipChannel.Providers.Deposits

  How the three deposit fields of an answer become one amount.  Readable amounts are
  added in the 28-digit context; an amount that cannot be read is zero, an infinity is
  itself, and neither is ever refused.
-/
import VipChannel.Providers.Bitunix
import VipChannel.Lib.Rounding

namespace VipChannel.BitunixReferralProvider

open Lib Decimal

/-- The amount a field holds: nothing where it is absent, null or empty, otherwise the
    finite number it denotes. -/
def amount? : Json → Option ℚ
  | .null => some 0
  | .str s => if s = "" then some 0 else (Decimal.ofString? s).bind value
  | .int n => some n
  | .float printed => printed.value
  | .bool _ | .arr _ | .obj _ => none

/-- The amounts of the three fields, when all are readable. -/
def Amounts (result : List (String × Json)) (amounts : List ℚ) : Prop :=
  DEPOSIT_FIELDS.map (fun field => amount? (Json.get result field)) = amounts.map some

/-- Deposits are read exactly or not at all. -/
structure ReadsDeposits (reprOf : Json → String) (uid : String)
    (fields result : List (String × Json)) : Prop where
  exactly : ∀ amounts, Amounts result amounts →
    ∃ check, parse reprOf uid (.obj fields) = .ok check ∧
      check.depositTotal.value = some amounts.sum
  refused : (∃ field ∈ DEPOSIT_FIELDS, amount? (Json.get result field) = none) →
    ∀ status, isSuccess status = true →
    ∃ e, validateUser reprOf uid (.response status (.ok (.obj fields))) = .error e ∧
      e.cls = .providerUnavailableError

/-! ## One field -/

theorem value_zero : Decimal.zero.value = some 0 :=
  congrArg some (val_eq_zero.mpr rfl)

theorem value_ofInt (n : ℤ) : (Decimal.ofInt n).value = some (n : ℚ) := by
  have hsigned : signed (decide (n < 0)) n.natAbs = n := signed_natAbs fun _ => rfl
  rw [Decimal.ofInt, value, val, hsigned, zpow_zero, mul_one]

/-- A readable field is read as its amount. -/
theorem toDecimal_value {j : Json} {a : ℚ} (h : amount? j = some a) :
    (toDecimal j).value = some a := by
  cases j with
  | null =>
    cases h
    exact value_zero
  | str s =>
    simp only [amount?, toDecimal] at h ⊢
    split_ifs at h ⊢ with hempty
    · cases h
      exact value_zero
    · cases hread : Decimal.ofString? s with
      | none =>
        rw [hread] at h
        cases h
      | some d =>
        rw [hread] at h
        exact h
  | int n =>
    cases h
    exact value_ofInt n
  | float printed => exact h
  | bool b => cases h
  | arr items => cases h
  | obj fields => cases h

theorem values_of_amounts {result : List (String × Json)} {amounts : List ℚ}
    (h : Amounts result amounts) :
    (DEPOSIT_FIELDS.map fun field => toDecimal (Json.get result field)).map value =
      amounts.map some := by
  rw [← h, List.map_map]
  apply List.map_congr_left
  intro field hfield
  have hsome : ∃ a, amount? (Json.get result field) = some a := by
    have hmem := List.mem_map_of_mem (f := fun field => amount? (Json.get result field)) hfield
    rw [h] at hmem
    obtain ⟨a, -, ha⟩ := List.mem_map.mp hmem
    exact ⟨a, ha.symm⟩
  obtain ⟨a, ha⟩ := hsome
  rw [ha]
  exact toDecimal_value ha

/-! ## The sum -/

theorem trap_foldlM {α : Type} (f : Decimal → α → Except DecimalSignal Decimal) (l : List α)
    (t : Decimal) : l.foldlM (fun total a => trap (f total a)) t = trap (l.foldlM f t) := by
  induction l generalizing t with
  | nil => rfl
  | cons a l ih =>
    rw [List.foldlM_cons, List.foldlM_cons]
    cases f t a with
    | error s => rfl
    | ok t' => exact ih t'

/-- The deposits are added in the context. -/
theorem depositTotal_eq (result : List (String × Json)) :
    depositTotal result =
      trap ((DEPOSIT_FIELDS.map fun field => toDecimal (Json.get result field)).foldlM Decimal.add
        .zero) := by
  unfold depositTotal
  rw [trap_foldlM (fun total field => total.add (toDecimal (Json.get result field))),
    List.foldlM_map]

/-- A total is the running sum of the amounts. -/
theorem depositTotal_iff {result : List (String × Json)} {amounts : List ℚ}
    (h : Amounts result amounts) (x : ℚ) :
    (∃ d, depositTotal result = .ok d ∧ d.value = some x) ↔ runningSum 0 amounts = some x := by
  rw [depositTotal_eq, ← foldlM_add (values_of_amounts h) value_zero]
  constructor
  · rintro ⟨d, hd, hx⟩
    cases hfold : (DEPOSIT_FIELDS.map fun field =>
        toDecimal (Json.get result field)).foldlM Decimal.add .zero with
    | error s =>
      rw [hfold] at hd
      cases hd
    | ok d' =>
      rw [hfold] at hd
      cases hd
      exact ⟨d, rfl, hx⟩
  · rintro ⟨d, hd, hx⟩
    rw [hd]
    exact ⟨d, rfl, hx⟩

/-! ## When deposits are read exactly -/

section Body

variable {reprOf : Json → String} {uid : String} {fields result : List (String × Json)}

theorem parse_ok_iff (hresult : Json.get fields "result" = .obj result) (x : ℚ) :
    (∃ check, parse reprOf uid (.obj fields) = .ok check ∧
      check.depositTotal.value = some x) ↔
    ∃ d, depositTotal result = .ok d ∧ d.value = some x := by
  simp only [parse, hresult, checkOf]
  cases depositTotal result with
  | error e => simp [bind, Except.bind]
  | ok d => simp [bind, Except.bind, pure, Except.pure]

/-- A body whose `result` is a dict is never refused as an outage. -/
theorem not_refused (hresult : Json.get fields "result" = .obj result) :
    ¬ ∃ e, validateUser reprOf uid (.response 200 (.ok (.obj fields))) = .error e ∧
      e.cls = .providerUnavailableError := by
  rintro ⟨e, he, hcls⟩
  rw [validateUser_success rfl] at he
  simp only [parse, hresult] at he
  exact checkOf_error he hcls

/-- In a body with a dict as `result`, whatever it states, the deposits are read exactly or
    not at all just when every field is readable and adding the amounts in the context
    loses nothing. -/
theorem deposits_read_iff (hresult : Json.get fields "result" = .obj result) :
    ReadsDeposits reprOf uid fields result ↔
      ∃ amounts, Amounts result amounts ∧ runningSum 0 amounts = some amounts.sum := by
  constructor
  · intro h
    have hreadable : ∀ field ∈ DEPOSIT_FIELDS, ∃ a, amount? (Json.get result field) = some a := by
      intro field hfield
      cases ha : amount? (Json.get result field) with
      | some a => exact ⟨a, rfl⟩
      | none => exact absurd (h.refused ⟨field, hfield, ha⟩ 200 rfl) (not_refused hresult)
    obtain ⟨amounts, hamounts⟩ : ∃ amounts, Amounts result amounts := by
      obtain ⟨x, hx⟩ := hreadable _ (by simp [DEPOSIT_FIELDS] : "deposit_usdt_Onchain" ∈ _)
      obtain ⟨y, hy⟩ := hreadable _ (by simp [DEPOSIT_FIELDS] : "deposit_usdt_Internal" ∈ _)
      obtain ⟨z, hz⟩ := hreadable _ (by simp [DEPOSIT_FIELDS] : "deposit_usdt_OTC" ∈ _)
      refine ⟨[x, y, z], ?_⟩
      simp only [Amounts, DEPOSIT_FIELDS, List.map_cons, List.map_nil, hx, hy, hz]
    refine ⟨amounts, hamounts, ?_⟩
    exact (depositTotal_iff hamounts _).mp
      ((parse_ok_iff hresult _).mp (h.exactly amounts hamounts))
  · rintro ⟨amounts, hamounts, hsum⟩
    constructor
    · intro amounts' hamounts'
      have hsame : amounts' = amounts := by
        have hmap : amounts'.map some = amounts.map some := hamounts'.symm.trans hamounts
        exact List.map_injective_iff.mpr (Option.some_injective ℚ) hmap
      rw [hsame]
      exact (parse_ok_iff hresult _).mpr ((depositTotal_iff hamounts _).mpr hsum)
    · rintro ⟨field, hfield, hnone⟩
      have hmem := List.mem_map_of_mem (f := fun field => amount? (Json.get result field)) hfield
      rw [hamounts] at hmem
      obtain ⟨a, -, ha⟩ := List.mem_map.mp hmem
      rw [hnone] at ha
      cases ha

end Body

/-- Two numerals and an absent field. -/
theorem two_rails_are_read :
    ReadsDeposits (fun _ => "") "123456789"
      [("result", .obj [("result", .bool true), ("deposit_usdt_Onchain", .str "250.10"),
        ("deposit_usdt_Internal", .int 50)])]
      [("result", .bool true), ("deposit_usdt_Onchain", .str "250.10"),
        ("deposit_usdt_Internal", .int 50)] := by
  apply (deposits_read_iff rfl).mpr
  refine ⟨[25010 / 100, 50, 0], ?_, ?_⟩
  · have hread : Decimal.ofString? "250.10" = some (.finite false 25010 (-2)) := by
      decide +kernel
    have honchain : amount? (.str "250.10") = some (25010 / 100) := by
      rw [amount?, if_neg (by decide), hread, Option.bind_some, value]
      norm_num [val, signed]
    show [amount? (.str "250.10"), amount? (.int 50), amount? .null] = _
    rw [honchain]
    rfl
  · rw [runningSum_exact, zero_add]
    intro k hk
    have hcases : k = 0 ∨ k = 1 ∨ k = 2 := by
      simp only [List.length_cons, List.length_nil] at hk
      omega
    have hlimit : (1000 : ℚ) < LIMIT := by
      rw [LIMIT, show (1000 : ℚ) = 10 ^ (3 : ℤ) by norm_num]
      exact zpow_lt_zpow_right₀ (by norm_num) (by decide)
    rcases hcases with rfl | rfl | rfl
    · refine ⟨⟨25010, -2, by norm_num, by norm_num [PREC], by decide⟩, ?_⟩
      refine lt_trans ?_ hlimit
      norm_num
    · refine ⟨⟨30010, -2, by norm_num, by norm_num [PREC], by decide⟩, ?_⟩
      refine lt_trans ?_ hlimit
      norm_num
    · refine ⟨⟨30010, -2, by norm_num, by norm_num [PREC], by decide⟩, ?_⟩
      refine lt_trans ?_ hlimit
      norm_num

/-- An amount that is no number is taken as zero. -/
theorem unreadable_deposit_is_zero :
    (parse (fun _ => "") "123456789" (.obj [("result", .obj [("result", .bool true),
        ("deposit_usdt_Onchain", .str "n/a")])])).map (·.depositTotal) = .ok .zero ∧
    ¬ ReadsDeposits (fun _ => "") "123456789"
      [("result", .obj [("result", .bool true), ("deposit_usdt_Onchain", .str "n/a")])]
      [("result", .bool true), ("deposit_usdt_Onchain", .str "n/a")] := by
  refine ⟨by decide +kernel, ?_⟩
  intro h
  have hunread : Decimal.ofString? "n/a" = none := by decide +kernel
  have hnone : amount? (.str "n/a") = none := by
    rw [amount?, if_neg (by decide), hunread]
    rfl
  have hrefused := h.refused ⟨"deposit_usdt_Onchain", by simp [DEPOSIT_FIELDS], hnone⟩ 200 rfl
  exact not_refused rfl hrefused

end VipChannel.BitunixReferralProvider
