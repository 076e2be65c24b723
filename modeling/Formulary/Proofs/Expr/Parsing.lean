import Formulary.Expr.Statement
import Formulary.Proofs.Text.Plain

/-!
# Parsing one expression

What the parsers answer on lexemes that form one expression. A parser that goes on with a value stops
where the next lexeme does not fit, so that an operation of any level is read off one of the next
tighter level.
-/

namespace Formulary.Expr

open Formulary.Expr.Parser Formulary.Expr.Grammar

variable {α β : Type} {k l l' : Located} {ks ls rest : List Located} {x : α}

namespace Parser

theorem bind_ok {p : Parser α} {f : α → Parser β} (h : p ls = .ok x rest) :
    (p >>= f) ls = f x rest := by
  change Parser.bind p f ls = f x rest
  rw [Parser.bind, h]

theorem bind_true {p : Parser Bool} {yes no : Parser β} (h : p ls = .ok true rest) :
    (p >>= fun b => if b then yes else no) ls = yes rest := bind_ok h

theorem bind_false {p : Parser Bool} {yes no : Parser β} (h : p ls = .ok false rest) :
    (p >>= fun b => if b then yes else no) ls = no rest := bind_ok h

theorem continuing_ok {p : Parser α} {careful : Bool} (h : p ls = .ok x rest) :
    continuing careful p ls = .ok (some x) rest := by
  rw [continuing, h]

theorem look_cons : look (l :: ls) = .ok l (l :: ls) := rfl

theorem atSymbol_self {s : String} (h : l.lexeme = .symbol s) :
    atSymbol s (l :: ls) = .ok true (l :: ls) := by
  rw [atSymbol, bind_ok look_cons, decide_eq_true h]
  rfl

theorem atSymbol_ne {s : String} (h : l.lexeme ≠ .symbol s) :
    atSymbol s (l :: ls) = .ok false (l :: ls) := by
  rw [atSymbol, bind_ok look_cons, decide_eq_false h]
  rfl

theorem atWord_ne {w : String} (h : l.lexeme ≠ .name w.toList) :
    atWord w (l :: ls) = .ok false (l :: ls) := by
  rw [atWord, bind_ok look_cons, decide_eq_false h]
  rfl

theorem acceptSymbol_self {s : String} (h : l.lexeme = .symbol s) :
    acceptSymbol s (l :: ls) = .ok true ls := by
  rw [acceptSymbol, bind_true (atSymbol_self h)]
  rfl

theorem acceptSymbol_ne {s : String} (h : l.lexeme ≠ .symbol s) :
    acceptSymbol s (l :: ls) = .ok false (l :: ls) := by
  rw [acceptSymbol, bind_false (atSymbol_ne h)]
  rfl

theorem acceptWord_ne {w : String} (h : l.lexeme ≠ .name w.toList) :
    acceptWord w (l :: ls) = .ok false (l :: ls) := by
  rw [acceptWord, bind_false (atWord_ne h)]
  rfl

end Parser

theorem nameBefore_ne {sign : String} (h : l.lexeme ≠ .symbol sign) :
    nameBefore sign (k :: l :: ls) = .ok false (k :: l :: ls) := by
  rw [nameBefore, bind_ok look_cons]
  cases nameOf? k.lexeme with
  | none => rfl
  | some s =>
    change Reply.ok (decide (l.lexeme = .symbol sign)) (k :: l :: ls) = _
    rw [decide_eq_false h]

/-- Nothing that goes on with a value is next. -/
structure EndsValue (l : Lexeme) : Prop where
  point : l ≠ .symbol "."
  call : l ≠ .symbol "("
  item : l ≠ .symbol "["

/-- Nothing that goes on with an operation is next. -/
structure EndsOperation (l : Lexeme) : Prop where
  word : ∀ cs, l ≠ .name cs
  operator : ∀ level, binaryAt level l = none
  comparison : ∀ s, l = .symbol s → comparisonOf s = none

/-- Nothing that stands only in front of an operation is next. -/
structure StartsOperation (l : Lexeme) : Prop where
  word : ∀ w ∈ reservedWords, l ≠ .name w.toList
  star : l ≠ .symbol "*"
  closing : l ≠ .symbol ")"
  finish : l ≠ .finish

variable {a b e : Expr} {fuel level : Nat}

/-! ## Values -/

theorem trailers_stop (h : EndsValue l.lexeme) :
    trailers false (fuel + 1) e (l :: ls) = .ok e (l :: ls) := by
  rw [trailers, bind_false (acceptSymbol_ne h.point), bind_false (atSymbol_ne h.call),
    bind_false (atSymbol_ne h.item)]
  rfl

theorem primary_atom (hatom : atom false (fuel + 1) ls = .ok e (l :: rest))
    (h : EndsValue l.lexeme) : primary false (fuel + 2) ls = .ok e (l :: rest) := by
  rw [primary, bind_ok hatom, trailers_stop h]

theorem atom_numeral {cs : List Char} {v : Literal} (hl : l.lexeme = .numeral cs)
    (hv : numeralLiteral cs = .ok v) : atom false (fuel + 1) (l :: ls) = .ok (.literal v) ls := by
  rw [atom, bind_ok look_cons, hl]
  simp only [hv]
  rfl

theorem ofDigits_numeral (n : Nat) : Decimal.ofDigits 10 (Nat.toDigits 10 n) = n := by
  have hall : ∀ (ds : List Char), (∀ d ∈ ds, d.isDigit = true) → ∀ m,
      ds.foldl (fun n c => 10 * n + (if c.isDigit then c.toNat - '0'.toNat
        else c.toLower.toNat - 'a'.toNat + 10)) m = Nat.ofDigitChars 10 ds m := by
    intro ds
    induction ds with
    | nil => intro _ m; rfl
    | cons d ds ih =>
      intro h m
      rw [List.foldl_cons, if_pos (h d List.mem_cons_self), Nat.ofDigitChars_cons,
        ih fun c hc => h c (List.mem_cons_of_mem d hc)]
  rw [Decimal.ofDigits, hall _ fun d hd => Text.isDigit_of_mem_numeral hd, Nat.ofDigitChars_ten_toDigits]

theorem numeralLiteral_canonical {n : Nat}
    (h : (Nat.toDigits 10 n).length ≤ Decimal.maxIntegerDigits) :
    numeralLiteral (Nat.toDigits 10 n) = .ok (.int n) := by
  have hdigits : ∀ c ∈ Nat.toDigits 10 n, c.isDigit = true := fun c hc => Text.isDigit_of_mem_numeral hc
  have hne : ∀ c ∈ Nat.toDigits 10 n, ∀ d, d.isDigit = false → c ≠ d := by
    rintro c hc d hd rfl
    exact Bool.noConfusion ((hdigits c hc).symm.trans hd)
  have hfilter : (Nat.toDigits 10 n).filter (· ≠ '_') = Nat.toDigits 10 n :=
    List.filter_eq_self.mpr fun c hc => decide_eq_true (hne c hc '_' (by decide))
  have hvalue := ofDigits_numeral n
  unfold numeralLiteral
  simp only [hfilter]
  generalize Nat.toDigits 10 n = ds at *
  split
  · exact absurd rfl (hne 'x' (by simp) 'x' (by decide))
  · exact absurd rfl (hne 'o' (by simp) 'o' (by decide))
  · exact absurd rfl (hne 'b' (by simp) 'b' (by decide))
  · split
    · rename_i hlast
      exact absurd rfl (hne 'j' (List.mem_of_getLast? hlast) 'j' (by decide))
    · rename_i hlast
      exact absurd rfl (hne 'J' (List.mem_of_getLast? hlast) 'J' (by decide))
    · rw [if_pos (List.all_eq_true.mpr hdigits), if_neg (Nat.not_lt.mpr h), hvalue]

theorem atom_name {cs : List Char} (hl : l.lexeme = .name cs) (hcs : isReserved cs = false) :
    atom false (fuel + 1) (l :: ls) = .ok (.name (Text.normalize (String.ofList cs))) ls := by
  rw [atom, bind_ok look_cons, hl]
  simp only [hcs]
  rfl

/-- An expression in parentheses; what is in them is no assignment. -/
theorem atom_group (hk : k.lexeme = .symbol "(") (hl : StartsOperation l.lexeme)
    (hl' : l'.lexeme ≠ .symbol ":=") (he : ∀ e', e ≠ .starred e') {r : Located}
    (hr : r.lexeme = .symbol ")")
    (h : expression false fuel (l :: l' :: ls) = .ok e (r :: rest)) :
    atom false (fuel + 4) (k :: l :: l' :: ls) = .ok e rest := by
  have hassign : r.lexeme ≠ .symbol ":=" := by
    rw [hr]
    decide
  have hnamed : named false (fuel + 1) (l :: l' :: ls) = .ok e (r :: rest) := by
    rw [named, bind_ok look_cons, bind_false (nameBefore_ne hl'), bind_ok h,
      bind_false (atSymbol_ne hassign)]
    rfl
  have hstar : starNamed false (fuel + 2) (l :: l' :: ls) = .ok e (r :: rest) := by
    rw [starNamed, bind_false (acceptSymbol_ne hl.star), hnamed]
  have hgroup : group false (fuel + 3) (l :: l' :: ls) = .ok e rest := by
    rw [group, bind_false (acceptSymbol_ne hl.closing)]
    change (starNamed false (fuel + 2) >>= _) (l :: l' :: ls) = _
    rw [bind_ok hstar, bind_true (acceptSymbol_self hr)]
    cases e with
    | starred e' => exact absurd rfl (he e')
    | _ => rfl
  rw [atom, bind_ok look_cons, hk]
  exact hgroup

/-! ## Operations -/

theorem operation_sign {op : UnaryOp} (hop : signAt l.lexeme = some op)
    (h : operation false fuel 10 ls = .ok e rest) :
    operation false (fuel + 1) 10 (l :: ls) = .ok (.unary op e) rest := by
  rw [operation, if_neg (by omega), bind_ok look_cons, hop]
  exact bind_ok h

theorem operation_power (hsign : signAt l.lexeme = none)
    (hbase : primary false fuel (l :: ls) = .ok a (l' :: rest)) (hpower : l'.lexeme = .symbol "**")
    {rest' : List Located} (h : operation false fuel 10 rest = .ok b rest') :
    operation false (fuel + 1) 10 (l :: ls) = .ok (.binary .power a b) rest' := by
  have htake : (take >>= fun _ => operation false fuel 10) (l' :: rest) = .ok b rest' := h
  rw [operation, if_neg (by omega), bind_ok look_cons, hsign]
  simp only
  rw [bind_ok hbase, bind_true (atSymbol_self hpower)]
  exact bind_ok (continuing_ok htake)

theorem operation_base (hsign : signAt l.lexeme = none)
    (hbase : primary false fuel (l :: ls) = .ok a (l' :: rest))
    (hpower : l'.lexeme ≠ .symbol "**") :
    operation false (fuel + 1) 10 (l :: ls) = .ok a (l' :: rest) := by
  rw [operation, if_neg (by omega), bind_ok look_cons, hsign]
  simp only
  rw [bind_ok hbase, bind_false (atSymbol_ne hpower)]
  rfl

/-- An operation of a level with left grouping goes on behind one of the next level. -/
theorem operation_chain (hlow : 4 ≤ level) (hhigh : level < 10)
    (h : operation false fuel (level + 1) ls = .ok e rest) :
    operation false (fuel + 1) level ls = binaryTail false fuel level e rest := by
  obtain ⟨n, rfl⟩ := Nat.exists_eq_add_of_le' hlow
  rw [operation, if_pos (by omega)]
  exact bind_ok h

theorem binaryTail_step {op : BinaryOp} (hop : binaryAt level l.lexeme = some op)
    (h : operation false fuel (level + 1) ls = .ok b rest) :
    binaryTail false (fuel + 1) level a (l :: ls) =
      binaryTail false fuel level (.binary op a b) rest := by
  have htake : (take >>= fun _ => operation false fuel (level + 1)) (l :: ls) = .ok b rest := h
  rw [binaryTail, bind_ok look_cons, hop]
  exact bind_ok (continuing_ok htake)

theorem binaryTail_stop (hop : binaryAt level l.lexeme = none) :
    binaryTail false (fuel + 1) level a (l :: ls) = .ok a (l :: ls) := by
  rw [binaryTail, bind_ok look_cons, hop]
  rfl

theorem operation_loosen (hlow : 4 ≤ level) (hhigh : level < 10) (hl : EndsOperation l.lexeme)
    (h : operation false (fuel + 1) (level + 1) ls = .ok e (l :: rest)) :
    operation false (fuel + 2) level ls = .ok e (l :: rest) := by
  rw [operation_chain hlow hhigh h, binaryTail_stop (hl.operator level)]

theorem comparisons_stop (h : EndsOperation l.lexeme) :
    comparisons false (fuel + 1) (l :: ls) = .ok [] (l :: ls) := by
  have hnone : acceptComparison (l :: ls) = .ok none (l :: ls) := by
    rw [acceptComparison, bind_ok look_cons]
    cases hl : l.lexeme with
    | symbol s =>
      simp only [h.comparison s hl]
      rfl
    | name cs => exact absurd hl (h.word cs)
    | _ => rfl
  rw [comparisons]
  refine (bind_ok (continuing_ok (x := none) ?_)).trans rfl
  exact bind_ok hnone

theorem operation_compared (hl : EndsOperation l.lexeme)
    (h : operation false (fuel + 1) 4 ls = .ok e (l :: rest)) :
    operation false (fuel + 2) 3 ls = .ok e (l :: rest) := by
  rw [operation, bind_ok h, bind_ok (comparisons_stop hl)]
  rfl

theorem andTail_stop (h : l.lexeme ≠ .name "and".toList) :
    andTail false (fuel + 1) e (l :: ls) = .ok e (l :: ls) := by
  rw [andTail, bind_false (atWord_ne h)]
  rfl

theorem orTail_stop (h : l.lexeme ≠ .name "or".toList) :
    orTail false (fuel + 1) e (l :: ls) = .ok e (l :: ls) := by
  rw [orTail, bind_false (atWord_ne h)]
  rfl

theorem operation_logical (hk : StartsOperation k.lexeme) (hl : EndsOperation l.lexeme)
    (h : operation false (fuel + 1) 3 (k :: ks) = .ok e (l :: rest)) :
    operation false (fuel + 4) 0 (k :: ks) = .ok e (l :: rest) := by
  have hnot : operation false (fuel + 2) 2 (k :: ks) = .ok e (l :: rest) := by
    rw [operation, bind_false (acceptWord_ne (hk.word "not" (by decide))), h]
  have hand : operation false (fuel + 3) 1 (k :: ks) = .ok e (l :: rest) := by
    rw [operation, bind_ok hnot, andTail_stop (hl.word _)]
  rw [operation, bind_ok hand, orTail_stop (hl.word _)]

/-! ## Expressions and statements -/

/-- A sum is an expression if nothing goes on with it. -/
theorem expression_sum (hk : StartsOperation k.lexeme) (hl : EndsOperation l.lexeme)
    (h : operation false (fuel + 1) 8 (k :: ks) = .ok e (l :: rest)) :
    expression false (fuel + 10) (k :: ks) = .ok e (l :: rest) := by
  have h7 := operation_loosen (by decide) (by decide) hl h
  have h6 := operation_loosen (by decide) (by decide) hl h7
  have h5 := operation_loosen (by decide) (by decide) hl h6
  have h4 := operation_loosen (by decide) (by decide) hl h5
  have h0 := operation_logical hk hl (operation_compared hl h4)
  rw [expression, bind_false (acceptWord_ne (hk.word "lambda" (by decide)))]
  change (operation false (fuel + 9) 0 >>= _) (k :: ks) = _
  rw [bind_ok h0]
  exact bind_false (atWord_ne (hl.word _))

theorem wordStatement?_none (hk : StartsOperation k.lexeme) :
    wordStatement? false fuel (k :: ks) = .ok none (k :: ks) := by
  have hskip : ∀ w ∈ reservedWords, ∀ yes no : Parser (Option Statement),
      (acceptWord w >>= fun b => if b then yes else no) (k :: ks) = no (k :: ks) :=
    fun w hw _ _ => bind_false (acceptWord_ne (hk.word w hw))
  rw [wordStatement?]
  simp only
  rw [hskip "pass" (by decide), hskip "break" (by decide), hskip "continue" (by decide),
    hskip "return" (by decide), hskip "raise" (by decide), hskip "del" (by decide),
    hskip "assert" (by decide), hskip "global" (by decide), hskip "nonlocal" (by decide),
    hskip "import" (by decide), hskip "from" (by decide)]
  rfl

/-- An expression on a line of its own is the one statement of the text. -/
theorem statements_expression (hk : StartsOperation k.lexeme) (hl : l.lexeme = .newline)
    (hl' : l'.lexeme = .finish)
    (h : expression false fuel (k :: ks) = .ok e [l, l']) (steps : Nat) :
    statements false (fuel + 2) (steps + 2) (k :: ks) = .ok [.value e] [l'] := by
  have hsymbol : ∀ s, l.lexeme ≠ .symbol s := by simp [hl]
  have hstar : starExpression false (fuel + 1) (k :: ks) = .ok e [l, l'] := by
    rw [starExpression, bind_false (acceptSymbol_ne hk.star), h]
  have hstars : starExpressions false (fuel + 2) (k :: ks) = .ok e [l, l'] := by
    rw [starExpressions, bind_ok hstar, bind_false (acceptSymbol_ne (hsymbol _))]
    rfl
  have hstatement : statement false (fuel + 2) (k :: ks) = .ok (.value e) [l, l'] := by
    rw [statement, bind_ok (wordStatement?_none hk)]
    simp only
    rw [bind_ok look_cons, bind_ok hstars, bind_ok look_cons, hl]
    rfl
  have hline : statementLine false (fuel + 2) (fuel + 2) (k :: ks) = .ok [.value e] [l'] := by
    rw [statementLine, bind_ok hstatement, bind_false (acceptSymbol_ne (hsymbol _)),
      bind_ok look_cons, if_pos hl]
    rfl
  have hend : statements false (fuel + 2) (steps + 1) [l'] = .ok [] [l'] := by
    rw [statements, bind_ok look_cons, hl']
    rfl
  rw [statements, bind_ok look_cons]
  cases hlex : k.lexeme with
  | finish => exact absurd hlex hk.finish
  | _ =>
    simp only
    rw [bind_ok hline, bind_ok hend]
    rfl

theorem parse_of_lex {cs : List Char} {ss : List Statement} (ls : List Located)
    (hlex : lex cs = ⟨ls, none⟩)
    (h : statements false (24 * ls.length + 24) (24 * ls.length + 24) ls = .ok ss rest) :
    parse cs = .ok ss := by
  rw [parse, hlex]
  dsimp only
  rw [h]

/-! ## Enough steps

The number of steps that a parse may take grows with the number of lexemes: there are `stepsEach` for
each. The way from one level down to the next takes one of them. -/

/-- The steps that a parse has for a lexeme. -/
def stepsEach : Nat := 24

/-- With enough steps the parser takes the lexemes for the expression, whichever of the given lexemes is
next. -/
def Parses (p : Nat → Parser Expr) (down : Nat) (follow : List Lexeme) (ls : List Located)
    (e : Expr) : Prop :=
  ∀ fuel r rest, r.lexeme ∈ follow → stepsEach * ls.length ≤ fuel + down →
    p fuel (ls ++ r :: rest) = .ok e (r :: rest)

/-- With enough steps an operation of a level goes on behind the lexemes, which are the expression so
far. -/
def Chains (level down : Nat) (follow : List Lexeme) (ls : List Located) (e : Expr) : Prop :=
  ∀ fuel r rest, r.lexeme ∈ follow → stepsEach * ls.length ≤ fuel + down →
    ∃ m, fuel ≤ m + ls.length ∧
      operation false fuel level (ls ++ r :: rest) = binaryTail false m level e (r :: rest)

variable {down down' : Nat} {follow follow' : List Lexeme} {ls' : List Located}

theorem parses_atom {k : Located} (hdown : down < stepsEach)
    (h : ∀ fuel ks, atom false (fuel + 1) (k :: ks) = .ok e ks) :
    Parses (atom false) down follow [k] e := by
  intro fuel r rest _ hfuel
  rw [stepsEach] at hdown
  rw [stepsEach, List.length_singleton] at hfuel
  obtain ⟨m, rfl⟩ : ∃ m, fuel = m + 1 := Nat.exists_eq_add_one.mpr (by omega)
  exact h m (r :: rest)

theorem Parses.primary (h : Parses (atom false) (down + 1) follow ls e) (hne : ls ≠ [])
    (hdown : down + 1 < stepsEach) (hfollow : ∀ s ∈ follow, EndsValue s) :
    Parses (primary false) down follow ls e := by
  intro fuel r rest hr hfuel
  have hlength := List.length_pos_iff.mpr hne
  rw [stepsEach] at hdown hfuel
  obtain ⟨m, rfl⟩ : ∃ m, fuel = m + 2 := Nat.exists_eq_add_of_le' (by omega)
  have hatom := h (m + 1) r rest hr (by rw [stepsEach]; omega)
  exact primary_atom hatom (hfollow _ hr)

theorem Parses.sign {op : UnaryOp} (h : Parses (operation false · 10) down follow ls e)
    (hdown : down < stepsEach) (hop : signAt l.lexeme = some op) :
    Parses (operation false · 10) down follow (l :: ls) (.unary op e) := by
  intro fuel r rest hr hfuel
  rw [List.length_cons, stepsEach] at hfuel
  rw [stepsEach] at hdown
  obtain ⟨m, rfl⟩ : ∃ m, fuel = m + 1 := Nat.exists_eq_add_one.mpr (by omega)
  exact operation_sign hop (h m r rest hr (by rw [stepsEach]; omega))

theorem Parses.base (h : Parses (Grammar.primary false) (down + 1) follow (k :: ks) e)
    (hdown : down < stepsEach) (hsign : signAt k.lexeme = none)
    (hsub : ∀ s ∈ follow', s ∈ follow ∧ s ≠ .symbol "**") :
    Parses (operation false · 10) down follow' (k :: ks) e := by
  intro fuel r rest hr hfuel
  obtain ⟨hfollow, hpower⟩ := hsub _ hr
  rw [List.length_cons, stepsEach] at hfuel
  rw [stepsEach] at hdown
  obtain ⟨m, rfl⟩ : ∃ m, fuel = m + 1 := Nat.exists_eq_add_one.mpr (by omega)
  have hbase := h m r rest hfollow (by rw [List.length_cons, stepsEach]; omega)
  exact operation_base hsign hbase hpower

/-- The exponent of a power is an operation with a sign or a power again. -/
theorem Parses.power (h : Parses (Grammar.primary false) (down + 1) follow (k :: ks) a)
    (h' : Parses (operation false · 10) down follow' ls' b) (hdown : down < stepsEach)
    (hsign : signAt k.lexeme = none) (hpower : l.lexeme = .symbol "**")
    (hl : l.lexeme ∈ follow) :
    Parses (operation false · 10) down follow' (k :: ks ++ l :: ls') (.binary .power a b) := by
  intro fuel r rest hr hfuel
  rw [List.length_append, List.length_cons, List.length_cons, stepsEach] at hfuel
  rw [stepsEach] at hdown
  obtain ⟨m, rfl⟩ : ∃ m, fuel = m + 1 := Nat.exists_eq_add_one.mpr (by omega)
  have hbase := h m l (ls' ++ r :: rest) hl (by rw [List.length_cons, stepsEach]; omega)
  have hexponent := h' m r rest hr (by rw [stepsEach]; omega)
  rw [List.append_assoc]
  exact operation_power hsign hbase hpower hexponent

theorem Parses.chains (h : Parses (operation false · (level + 1)) (down + 1) follow ls e)
    (hne : ls ≠ []) (hdown : down < stepsEach) (hlow : 4 ≤ level) (hhigh : level < 10) :
    Chains level down follow ls e := by
  intro fuel r rest hr hfuel
  have hlength := List.length_pos_iff.mpr hne
  rw [stepsEach] at hdown hfuel
  obtain ⟨m, rfl⟩ : ∃ m, fuel = m + 1 := Nat.exists_eq_add_one.mpr (by omega)
  have hinner := h m r rest hr (by rw [stepsEach]; omega)
  exact ⟨m, by omega, operation_chain hlow hhigh hinner⟩

/-- A chain goes on with an operator and an operand of the next tighter level. -/
theorem Chains.step {op : BinaryOp} (h : Chains level down follow ls a)
    (h' : Parses (operation false · (level + 1)) (down + 1) follow' ls' b)
    (hdown : down < stepsEach) (hl : l.lexeme ∈ follow) (hop : binaryAt level l.lexeme = some op)
    (hsub : ∀ s ∈ follow, s ∈ follow') :
    Chains level down follow (ls ++ l :: ls') (.binary op a b) := by
  intro fuel r rest hr hfuel
  rw [List.length_append, List.length_cons, stepsEach] at hfuel
  rw [stepsEach] at hdown
  obtain ⟨m, hm, hchain⟩ := h fuel l (ls' ++ r :: rest) hl (by rw [stepsEach]; omega)
  obtain ⟨m, rfl⟩ : ∃ n, m = n + 1 := Nat.exists_eq_add_one.mpr (by omega)
  have hoperand := h' m r rest (hsub _ hr) (by rw [stepsEach]; omega)
  refine ⟨m, by rw [List.length_append, List.length_cons]; omega, ?_⟩
  rw [List.append_assoc, List.cons_append, hchain, binaryTail_step hop hoperand]

/-- A chain is an operation of its level if no operator of the level is next. -/
theorem Chains.parses (h : Chains level down follow ls e) (hne : ls ≠ [])
    (hdown : down + 1 < stepsEach) (hsub : ∀ s ∈ follow', s ∈ follow ∧ binaryAt level s = none) :
    Parses (operation false · level) down follow' ls e := by
  intro fuel r rest hr hfuel
  have hlength := List.length_pos_iff.mpr hne
  obtain ⟨hfollow, hop⟩ := hsub _ hr
  obtain ⟨m, hm, hchain⟩ := h fuel r rest hfollow hfuel
  rw [stepsEach] at hdown hfuel
  obtain ⟨m, rfl⟩ : ∃ n, m = n + 1 := Nat.exists_eq_add_one.mpr (by omega)
  exact hchain.trans (binaryTail_stop hop)

/-- From an expression down to its sum there are nine levels. -/
theorem Parses.expression (h : Parses (operation false · 8) (down + 9) follow (k :: ks) e)
    (hdown : down + 9 < stepsEach) (hk : StartsOperation k.lexeme)
    (hfollow : ∀ s ∈ follow, EndsOperation s) :
    Parses (expression false) down follow (k :: ks) e := by
  intro fuel r rest hr hfuel
  rw [List.length_cons, stepsEach] at hfuel
  rw [stepsEach] at hdown
  obtain ⟨m, rfl⟩ : ∃ m, fuel = m + 10 := Nat.exists_eq_add_of_le' (by omega)
  have hsum := h (m + 1) r rest hr (by rw [List.length_cons, stepsEach]; omega)
  exact expression_sum hk (hfollow _ hr) hsum

/-- The steps of the two parentheses are more than enough for the way down through them. -/
theorem Parses.group {r : Located} (h : Parses (Grammar.expression false) down' follow (k :: ks) e)
    (hk : StartsOperation k.lexeme) (hassign : ∀ k' ∈ ks, k'.lexeme ≠ .symbol ":=")
    (he : ∀ e', e ≠ .starred e') (hl : l.lexeme = .symbol "(") (hr : r.lexeme = .symbol ")")
    (hfollow : r.lexeme ∈ follow) (hdown : down < stepsEach) :
    Parses (atom false) down follow' (l :: (k :: ks ++ [r])) e := by
  intro fuel r' rest _ hfuel
  simp only [List.length_append, List.length_cons, List.length_nil, stepsEach] at hfuel
  rw [stepsEach] at hdown
  obtain ⟨m, rfl⟩ : ∃ m, fuel = m + 4 := Nat.exists_eq_add_of_le' (by omega)
  have hexpr := h m r (r' :: rest) hfollow (by rw [List.length_cons, stepsEach]; omega)
  have hr' : r.lexeme ≠ .symbol ":=" := by
    rw [hr]
    decide
  obtain ⟨l', ls, hls, hl'⟩ : ∃ l' ls, ks ++ r :: r' :: rest = l' :: ls ∧
      l'.lexeme ≠ .symbol ":=" := by
    cases ks with
    | nil => exact ⟨r, r' :: rest, rfl, hr'⟩
    | cons k' ks => exact ⟨k', _, rfl, hassign k' List.mem_cons_self⟩
  simp only [List.cons_append, List.append_assoc, List.nil_append] at hexpr ⊢
  rw [hls] at hexpr ⊢
  exact atom_group hl hk hl' he hr hexpr

end Formulary.Expr
