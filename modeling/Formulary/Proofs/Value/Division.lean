import Formulary.Proofs.Binary.Integer
import Formulary.Value.Arithmetic

/-!
# Division by zero

A real divided by a zero is an infinity with the product of the signs, or undefined if it is zero or
undefined itself. The dividend is brought to a double on the way, which fails for an integer that is out
of the range of doubles.
-/

namespace Formulary

open Binary (Side decode sideOf overflowLimit)

/-- The side of zero on which a plain real lies. -/
def Plain.side? : Plain → Option Side
  | .int n => some (sideOf n)
  | .float x => some (decode x).side
  | .complex _ => none

namespace Value

variable {a b : Value} {p q : Plain} {r : Side} {negative : Bool}

/-- The side of zero on which a real lies: an integer or a truth value, a double or a machine double. -/
def side? : Value → Option Side
  | .int n => some (sideOf n)
  | .bool b => some (sideOf (if b then 1 else 0))
  | .float x | .machine (.real .double x) => some (decode x).side
  | _ => Option.none

/-- The real brought to a double. -/
def double? : Value → Except EvalError Float
  | .int n => Term.fitDouble n
  | .bool b => Term.fitDouble (if b then 1 else 0)
  | .float x | .machine (.real .double x) => .ok x
  | v => .error (.notReal v.kind)

/-- No integer that is out of the range of doubles. -/
def InRange (v : Value) : Prop := ∀ n, v = .int n → n.natAbs < overflowLimit

theorem fitDouble_cases (n : Int) :
    (∃ x, Term.fitDouble n = .ok x ∧ (decode x).side = sideOf n ∧ n.natAbs < overflowLimit) ∨
      (Term.fitDouble n = .error .intTooLargeForReal ∧ overflowLimit ≤ n.natAbs) := by
  rw [Term.fitDouble]
  cases h : Binary.ofInt? n with
  | none => exact .inr ⟨rfl, (Binary.ofInt?_eq_none_iff n).mp h⟩
  | some x =>
    refine .inl ⟨x, rfl, Binary.side_ofInt? h, ?_⟩
    have hne := mt (Binary.ofInt?_eq_none_iff n).mpr (by rw [h]; exact Option.some_ne_none x)
    omega

theorem fitDouble_zero : Term.fitDouble 0 = .ok 0 := by
  have h : Binary.ofInt? 0 = some 0 := by decide +kernel
  rw [Term.fitDouble, h]

/-! ## Plain numbers -/

theorem int_of_zero {n : Int} (h : (Plain.int n).side? = some (.zero negative)) :
    n = 0 ∧ negative = false := by
  rw [Plain.side?, sideOf] at h
  split at h <;> simp_all

/-- With the sign of the divisor known, the dividend alone decides. -/
theorem overZero_of_zero (p : Plain) (hq : q.side? = some (.zero negative)) :
    overZero p q = match p with
      | .int n =>
        if n = 0 then .ok (.float Binary.nan)
        else (Term.fitDouble n).map fun _ => .float (Binary.infinity (decide (n < 0) != negative))
      | .float x =>
        if x == 0 || x.isNaN then .ok (.float Binary.nan)
        else .ok (.float (Binary.infinity (Binary.isNegative x != negative)))
      | .complex z => if z.isZero then .ok (.float Binary.nan) else .error (.notReal "complex") := by
  cases q with
  | complex => simp [Plain.side?] at hq
  | int n =>
    obtain ⟨rfl, rfl⟩ := int_of_zero hq
    cases p <;> rfl
  | float y =>
    obtain rfl := Binary.isNegative_of_side (.inl (Option.some.inj hq))
    cases p <;> rfl

theorem overZero_eq (hp : p.side? = some r) (hq : q.side? = some (.zero negative)) :
    overZero p q = p.toFloat?.map fun _ => .float (r.overZero negative) := by
  rw [overZero_of_zero p hq]
  cases p with
  | complex => simp [Plain.side?] at hp
  | int m =>
    obtain rfl : sideOf m = r := Option.some.inj hp
    by_cases hm : m = 0
    · subst hm
      rw [Plain.toFloat?, fitDouble_zero]
      rfl
    · simp only [if_neg hm, Plain.toFloat?, sideOf]
      rfl
  | float x =>
    obtain rfl : (decode x).side = r := Option.some.inj hp
    have hzero : (x == 0) = true ↔ ∃ negative, (decode x).side = .zero negative :=
      Binary.beq_zero_iff
    have hnan : x.isNaN = true ↔ (decode x).side = .undefined := Binary.isNaN_iff
    cases hx : (decode x).side with
    | undefined =>
      simp only [hnan.mpr hx, Bool.or_true, if_true]
      rfl
    | zero s =>
      simp only [hzero.mpr ⟨s, hx⟩, Bool.true_or, if_true]
      rfl
    | nonzero s =>
      have hsome : (x == 0 || x.isNaN) = false := by
        rw [Bool.or_eq_false_iff, Bool.eq_false_iff, Bool.eq_false_iff, ne_eq, ne_eq, hzero, hnan, hx]
        exact ⟨nofun, nofun⟩
      simp only [hsome, Bool.false_eq_true, if_false, Binary.isNegative_of_side (.inr hx)]
      rfl

theorem toFloat?_of_zero (hq : q.side? = some (.zero negative)) :
    ∃ y, q.toFloat? = .ok y ∧ (y == 0) = true := by
  cases q with
  | complex => simp [Plain.side?] at hq
  | int n =>
    obtain ⟨rfl, -⟩ := int_of_zero hq
    exact ⟨0, fitDouble_zero, by decide +kernel⟩
  | float y => exact ⟨y, rfl, Binary.beq_zero_iff.mpr ⟨negative, Option.some.inj hq⟩⟩

/-- There is no quotient by zero. Integers are not brought to doubles to find that out. -/
theorem quotient?_of_zero (hp : p.side? = some r) (hq : q.side? = some (.zero negative)) :
    quotient? p q = .ok Option.none ∨ quotient? p q = p.toFloat?.map fun _ => Option.none := by
  obtain ⟨y, hy, hzero⟩ := toFloat?_of_zero hq
  have hreals : (do
      let x ← p.toFloat?
      let y ← q.toFloat?
      return if y == 0 then Option.none else some (Value.float (x / y))) =
      p.toFloat?.map fun _ => Option.none := by
    rw [hy]
    cases p.toFloat? with
    | error => rfl
    | ok => simp only [Except.map, bind, Except.bind, hzero, if_true]; rfl
  cases p with
  | complex => simp [Plain.side?] at hp
  | int m =>
    cases q with
    | complex => simp [Plain.side?] at hq
    | int n =>
      obtain ⟨rfl, -⟩ := int_of_zero hq
      exact .inl rfl
    | float => exact .inr hreals
  | float x =>
    cases q with
    | complex => simp [Plain.side?] at hq
    | int => exact .inr hreals
    | float => exact .inr hreals

theorem numberOp_plain (ha : a.plain? = some p) (hb : b.plain? = some q) {op : BinaryOp}
    {onPlain : Plain → Plain → Except EvalError Value} :
    numberOp op onPlain a b = onPlain p q := by
  cases a <;> cases ha <;> cases b <;> cases hb <;> rfl

theorem divide_plain (ha : a.plain? = some p) (hb : b.plain? = some q) (hp : p.side? = some r)
    (hq : q.side? = some (.zero negative)) :
    a.divide b = p.toFloat?.map fun _ => .float (r.overZero negative) := by
  rw [divide, numberOp_plain ha hb]
  rcases quotient?_of_zero hp hq with h | h
  · rw [h]
    exact overZero_eq hp hq
  · rw [h, overZero_eq hp hq]
    cases p.toFloat? <;> rfl

/-! ## Machine numbers -/

theorem fitDouble_one : Term.fitDouble 1 = .ok 1 := by
  have h : Binary.ofInt? 1 = some 1 := by decide +kernel
  rw [Term.fitDouble, h]

/-- Beside a machine double a real is brought to a double. -/
theorem term?_of_side (ha : a.side? = some r) :
    ∃ t, a.term? = some t ∧ t.typeBeside (.real .double) = .real .double ∧
      t.toMachine (.real .double) = a.double?.map (.real .double) := by
  cases a with
  | int n =>
    refine ⟨.int n, rfl, rfl, ?_⟩
    rw [double?, Term.toMachine]
    cases Term.fitDouble n <;> rfl
  | bool b =>
    refine ⟨.machine (.flag b), rfl, rfl, ?_⟩
    cases b
    · rw [double?, if_neg Bool.false_ne_true, fitDouble_zero]; rfl
    · rw [double?, if_pos rfl, fitDouble_one]; rfl
  | float x => exact ⟨.float x, rfl, rfl, rfl⟩
  | machine m =>
    cases m with
    | real p x =>
      cases p with
      | double => exact ⟨.machine (.real .double x), rfl, rfl, rfl⟩
      | _ => simp [side?] at ha
    | _ => simp [side?] at ha
  | _ => simp [side?] at ha

theorem meet?_of_side {r' : Side} {t u : Term} (ha : a.side? = some r) (hb : b.side? = some r')
    (hmachine : (a.isMachine || b.isMachine) = true) (ht : a.term? = some t) (hu : b.term? = some u)
    (htype : t.typeBeside (.real .double) = .real .double)
    (hutype : u.typeBeside (.real .double) = .real .double) :
    meet? a b = some (.real .double, t, u) := by
  have hdouble {v : Value} {s : Side} (h : v.side? = some s) (hv : v.isMachine = true) :
      ∃ x, v = .machine (.real .double x) := by
    rw [side?.eq_def] at h
    split at h <;> simp_all [isMachine]
  cases ha' : a.isMachine with
  | true =>
    obtain ⟨x, rfl⟩ := hdouble ha ha'
    cases ht
    have hmap : meet? (.machine (.real .double x)) b =
      b.term?.map fun u => (u.typeBeside (.real .double), .machine (.real .double x), u) := rfl
    rw [hmap, hu, Option.map_some, hutype]
  | false =>
    obtain ⟨y, rfl⟩ := hdouble hb (by simpa [ha'] using hmachine)
    cases hu
    have hmap : meet? a (.machine (.real .double y)) =
        a.term?.map fun t => (t.typeBeside (.real .double), t, .machine (.real .double y)) := by
      cases a <;> first | rfl | simp [isMachine] at ha'
    rw [hmap, ht, Option.map_some, htype]

theorem divide_machine {r' : Side} (ha : a.side? = some r) (hb : b.side? = some r')
    (hmachine : (a.isMachine || b.isMachine) = true) :
    a.divide b = a.double?.bind fun x => b.double?.map fun y => .machine (.real .double (x / y)) := by
  obtain ⟨t, ht, htype, htmachine⟩ := term?_of_side ha
  obtain ⟨u, hu, hutype, humachine⟩ := term?_of_side hb
  have hop : a.divide b = machineOp .div a b := by
    unfold divide numberOp
    split
    · simp [side?] at ha
    · rw [if_pos hmachine]
  have hterm : Machine.termOp .div (.real .double) t u =
    (t.toMachine (.real .double)).bind fun m =>
      (u.toMachine (.real .double)).bind (Machine.sameTypeOp .div m) := rfl
  have hrefused : isRefused .div a b = false := rfl
  rw [hop, machineOp, hrefused, if_neg Bool.false_ne_true,
    meet?_of_side ha hb hmachine ht hu htype hutype]
  simp only [hterm, htmachine, humachine]
  cases a.double? with
  | error => rfl
  | ok x => cases b.double? <;> rfl

/-! ## Reals of any kind -/

theorem double?_cases (ha : a.side? = some r) :
    (∃ x, a.double? = .ok x ∧ (decode x).side = r ∧ a.InRange) ∨
      (a.double? = .error .intTooLargeForReal ∧ ¬ a.InRange) := by
  cases a with
  | int n =>
    obtain rfl : sideOf n = r := Option.some.inj ha
    rcases fitDouble_cases n with ⟨x, hx, hside, hlt⟩ | ⟨hx, hle⟩
    · exact .inl ⟨x, hx, hside, fun k hk => Value.int.inj hk ▸ hlt⟩
    · exact .inr ⟨hx, fun h => Nat.not_le.mpr (h n rfl) hle⟩
  | bool b =>
    obtain rfl := Option.some.inj ha
    refine .inl ⟨if b then 1 else 0, ?_, ?_, fun _ h => nomatch h⟩
    · cases b
      · exact fitDouble_zero
      · exact fitDouble_one
    · cases b <;> decide +kernel
  | float x => exact .inl ⟨x, rfl, Option.some.inj ha, fun _ h => nomatch h⟩
  | machine m =>
    cases m with
    | real p x =>
      cases p with
      | double => exact .inl ⟨x, rfl, Option.some.inj ha, fun _ h => nomatch h⟩
      | _ => simp [side?] at ha
    | _ => simp [side?] at ha
  | _ => simp [side?] at ha

theorem double?_of_zero (hb : b.side? = some (.zero negative)) :
    ∃ y, b.double? = .ok y ∧ (decode y).side = .zero negative := by
  rcases double?_cases hb with ⟨y, hy, hside, -⟩ | ⟨-, hout⟩
  · exact ⟨y, hy, hside⟩
  · refine absurd ?_ hout
    rintro n rfl
    obtain ⟨rfl, -⟩ := int_of_zero (Eq.trans rfl hb)
    exact (Binary.halfBelow_bounds 970).1

theorem plain?_of_side (ha : a.side? = some r) (hplain : a.isMachine = false) :
    ∃ p, a.plain? = some p ∧ p.side? = some r ∧ p.toFloat? = a.double? := by
  cases a with
  | int n => exact ⟨.int n, rfl, ha, rfl⟩
  | bool b => exact ⟨.int (if b then 1 else 0), rfl, ha, rfl⟩
  | float x => exact ⟨.float x, rfl, ha, rfl⟩
  | machine => simp [isMachine] at hplain
  | _ => simp [side?] at ha

/-- The dividend decides what it is divided by zero, and whether it is. -/
theorem divide_of_zero (ha : a.side? = some r) (hb : b.side? = some (.zero negative)) :
    ∃ v, v.plain = .float (r.overZero negative) ∧ a.divide b = a.double?.map fun _ => v := by
  cases hmachine : a.isMachine || b.isMachine with
  | true =>
    refine ⟨.machine (.real .double (r.overZero negative)), rfl, ?_⟩
    obtain ⟨y, hy, hzero⟩ := double?_of_zero hb
    rw [divide_machine ha hb hmachine, hy]
    rcases double?_cases ha with ⟨x, hx, rfl, -⟩ | ⟨hx, -⟩
    · rw [hx, ← Binary.div_zero hzero]
      rfl
    · rw [hx]
      rfl
  | false =>
    rw [Bool.or_eq_false_iff] at hmachine
    obtain ⟨p, hp, hpside, hdouble⟩ := plain?_of_side ha hmachine.1
    obtain ⟨q, hq, hqside, -⟩ := plain?_of_side hb hmachine.2
    exact ⟨_, rfl, hdouble ▸ divide_plain hp hq hpside hqside⟩

end Value

end Formulary
