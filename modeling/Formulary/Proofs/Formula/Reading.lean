import Formulary.Proofs.Expr.Line
import Formulary.Proofs.Expr.Parsing
import Formulary.Proofs.Formula.Words

/-!
# Reading a phrase

The source of a phrase is lexed to its lexemes and parsed to its expression: the precedence and the
grouping of the grammar are those of the expression language.
-/

namespace Formulary.Formula

open Formulary.Expr Formulary.Expr.Parser Formulary.Expr.Grammar Formulary.Text

namespace Level

/-- The lexemes that may stand behind a phrase of a level. -/
def follow : Level → List Lexeme
  | sum => [.newline, .symbol ")"]
  | product => [.newline, .symbol ")", .symbol "+", .symbol "-"]
  | factor | power => [.newline, .symbol ")", .symbol "+", .symbol "-", .symbol "*"]
  | primary => [.newline, .symbol ")", .symbol "+", .symbol "-", .symbol "*", .symbol "**"]

theorem endsValue_of_mem_follow {s : Lexeme} (h : s ∈ primary.follow) : EndsValue s := by
  constructor <;> rintro rfl <;> revert h <;> decide

theorem endsOperation_of_mem_follow {s : Lexeme} (h : s ∈ sum.follow) : EndsOperation s := by
  simp only [follow, List.mem_cons, List.not_mem_nil, or_false] at h
  rcases h with rfl | rfl
  · exact ⟨nofun, fun _ => rfl, nofun⟩
  · refine ⟨nofun, fun level => ?_, ?_⟩
    · simp only [binaryAt]
      split <;> rfl
    · intro s hs
      obtain rfl := Lexeme.symbol.inj hs
      rfl

/-- What a phrase of a level is to the parsers. -/
def Parsed : Level → List Located → Expr → Prop
  | sum => Chains 8 19 product.follow
  | product => Chains 9 20 factor.follow
  | factor | power => Parses (operation false · 10) 21 factor.follow
  | primary => Parses (Grammar.primary false) 22 primary.follow

end Level

namespace Phrase

variable {l : Level} {scope : Scope} {env : String → Int}

/-- The lexemes of a phrase on a line, with the number of parentheses that are open around it. -/
def lexemes (line : Nat) : {l : Level} → Nat → Phrase l → List Located
  | _, depth, literal n => [⟨.numeral (Nat.toDigits 10 n), line, depth⟩]
  | _, depth, name s => [⟨.name s.toList, line, depth⟩]
  | _, depth, group e =>
    ⟨.symbol "(", line, depth + 1⟩ :: (e.lexemes line (depth + 1) ++ [⟨.symbol ")", line, depth⟩])
  | _, depth, base p => p.lexemes line depth
  | _, depth, raised p f =>
    p.lexemes line depth ++ ⟨.symbol "**", line, depth⟩ :: f.lexemes line depth
  | _, depth, unsigned g => g.lexemes line depth
  | _, depth, minus f => ⟨.symbol "-", line, depth⟩ :: f.lexemes line depth
  | _, depth, factor f => f.lexemes line depth
  | _, depth, times p f =>
    p.lexemes line depth ++ ⟨.symbol "*", line, depth⟩ :: f.lexemes line depth
  | _, depth, beside p g =>
    p.lexemes line depth ++ ⟨.symbol "*", line, depth⟩ :: g.lexemes line depth
  | _, depth, term p => p.lexemes line depth
  | _, depth, plus e p =>
    e.lexemes line depth ++ ⟨.symbol "+", line, depth⟩ :: p.lexemes line depth
  | _, depth, less e p =>
    e.lexemes line depth ++ ⟨.symbol "-", line, depth⟩ :: p.lexemes line depth

/-- The expression that a phrase writes. -/
def expr : {l : Level} → Phrase l → Expr
  | _, literal n => .literal (.int n)
  | _, name s => .name s
  | _, group e => e.expr
  | _, base p => p.expr
  | _, raised p f => .binary .power p.expr f.expr
  | _, unsigned g => g.expr
  | _, minus f => .unary .negate f.expr
  | _, factor f => f.expr
  | _, times p f => .binary .mul p.expr f.expr
  | _, beside p g => .binary .mul p.expr g.expr
  | _, term p => p.expr
  | _, plus e p => .binary .add e.expr p.expr
  | _, less e p => .binary .sub e.expr p.expr

/-! ## Lexing -/

theorem spells_operation {st : ScanState} {xs ys : List String} {op : String} {k : Located}
    {ks ls : List Located} (hx : xs ≠ []) (hy : ys ≠ [])
    (h : Spells st (spaced xs) ks st) (hop : Spells st (spaced [op]) [k] st)
    (h' : Spells st (spaced ys) ls st) : Spells st (spaced (xs ++ op :: ys)) (ks ++ k :: ls) st := by
  rw [spaced_append hx (List.cons_ne_nil op ys), spaced_cons hy]
  exact h.join (hop.join h')

theorem spells_sign (st : ScanState) :
    ∀ s ∈ ["+", "-", "*"], Spells st (spaced [s]) [⟨.symbol s, st.line, st.depth⟩] st := by
  intro s hs
  simp only [List.mem_cons, List.not_mem_nil, or_false] at hs
  rcases hs with rfl | rfl | rfl <;>
  · rw [spaced_singleton (by decide)]
    exact .sign st (by decide)

theorem spells_power (st : ScanState) :
    Spells st (spaced ["^"]) [⟨.symbol "**", st.line, st.depth⟩] st := by
  have hpower : spaced ["^"] = ['*', '*'] := by simp [spaced, powerSigns]
  rw [hpower]
  exact .power st

theorem spells (t : Phrase l) (h : t.Admissible scope env) (st : ScanState)
    (hdepth : st.depth + t.nesting ≤ maxDepth) :
    Spells st (spaced t.words) (t.lexemes st.line st.depth) st := by
  induction t generalizing st with
  | literal n =>
    rw [words, (isWord_numeral n).spaced, toList_numeral]
    exact .numeral st n
  | name s =>
    rw [words, (isWord_name h.plain).spaced]
    exact .name st h.plain
  | group e ih =>
    rw [nesting] at hdepth
    have henter : st.enter.depth = st.depth + 1 := rfl
    have hinner := ih h st.enter (by omega)
    rw [words, spaced_cons (by simp), spaced_append e.words_ne_nil (by simp),
      spaced_singleton (by decide), spaced_singleton (by decide)]
    exact (Spells.opening st (by omega)).join (hinner.join (.closing st))
  | base p ih | unsigned p ih | factor p ih | term p ih => exact ih h st hdepth
  | minus f ih =>
    rw [words, spaced_cons f.words_ne_nil]
    exact (spells_sign st "-" (by decide)).join (ih h st hdepth)
  | raised p f ihp ihf =>
    rw [nesting] at hdepth
    exact spells_operation p.words_ne_nil f.words_ne_nil (ihp h.1 st (by omega)) (spells_power st)
      (ihf h.2.1 st (by omega))
  | times p q ihp ihq | beside p q ihp ihq =>
    rw [nesting] at hdepth
    exact spells_operation p.words_ne_nil q.words_ne_nil (ihp h.1 st (by omega))
      (spells_sign st "*" (by decide)) (ihq h.2 st (by omega))
  | plus e p ihe ihp =>
    rw [nesting] at hdepth
    exact spells_operation e.words_ne_nil p.words_ne_nil (ihe h.1 st (by omega))
      (spells_sign st "+" (by decide)) (ihp h.2 st (by omega))
  | less e p ihe ihp =>
    rw [nesting] at hdepth
    exact spells_operation e.words_ne_nil p.words_ne_nil (ihe h.1 st (by omega))
      (spells_sign st "-" (by decide)) (ihp h.2 st (by omega))

/-! ## Parsing -/

/-- The first lexeme starts an operation. -/
def Starts (ls : List Located) : Prop := ∃ k ks, ls = k :: ks ∧ StartsOperation k.lexeme

theorem Starts.append {ls : List Located} (h : Starts ls) (ls' : List Located) :
    Starts (ls ++ ls') := by
  obtain ⟨k, ks, rfl, hk⟩ := h
  exact ⟨k, ks ++ ls', rfl, hk⟩

theorem startsOperation_symbol : ∀ s ∈ ["(", "-"], StartsOperation (.symbol s) := by
  intro s hs
  simp only [List.mem_cons, List.not_mem_nil, or_false] at hs
  rcases hs with rfl | rfl <;> exact ⟨nofun, by decide, by decide, nofun⟩

theorem startsOperation_name {s : String} (h : isReserved s.toList = false) :
    StartsOperation (.name s.toList) := by
  refine ⟨fun w hw heq => ?_, nofun, nofun, nofun⟩
  have hs : s = w := String.toList_inj.mp (Lexeme.name.inj heq)
  rw [isReserved, String.ofList_toList, hs, List.contains_iff_mem.mpr hw] at h
  exact Bool.noConfusion h

theorem starts_lexemes (t : Phrase l) (h : t.Admissible scope env) (line depth : Nat) :
    Starts (t.lexemes line depth) := by
  induction t generalizing depth with
  | literal n => exact ⟨_, [], rfl, nofun, nofun, nofun, nofun⟩
  | name s => exact ⟨_, [], rfl, startsOperation_name h.notReserved⟩
  | group e => exact ⟨_, _, rfl, startsOperation_symbol "(" (by decide)⟩
  | minus f => exact ⟨_, _, rfl, startsOperation_symbol "-" (by decide)⟩
  | base p ih | unsigned p ih | factor p ih | term p ih => exact ih h depth
  | raised p q ih | times p q ih | beside p q ih | plus p q ih | less p q ih =>
    exact (ih h.1 depth).append _

theorem lexemes_ne_nil (t : Phrase l) (line depth : Nat) : t.lexemes line depth ≠ [] := by
  induction t generalizing depth <;> simp_all [lexemes]

theorem lexeme_ne_assign (t : Phrase l) (line depth : Nat) :
    ∀ k ∈ t.lexemes line depth, k.lexeme ≠ .symbol ":=" := by
  induction t generalizing depth <;> grind [lexemes]

theorem expr_ne_starred (t : Phrase l) (e : Expr) : t.expr ≠ .starred e := by
  induction t <;> simp_all [expr]

theorem signAt_primary (p : Phrase .primary) (line depth : Nat) :
    ∃ k ks, p.lexemes line depth = k :: ks ∧ signAt k.lexeme = none := by
  cases p with
  | literal n => exact ⟨_, [], rfl, rfl⟩
  | name s => exact ⟨_, [], rfl, rfl⟩
  | group e => exact ⟨_, _, rfl, rfl⟩

theorem parses_product (p : Phrase .product) {line depth : Nat}
    (hparsed : Level.product.Parsed (p.lexemes line depth) p.expr) :
    Parses (operation false · 9) 20 Level.product.follow (p.lexemes line depth) p.expr := by
  have hsub : ∀ s ∈ Level.product.follow, s ∈ Level.factor.follow ∧ binaryAt 9 s = none := by decide
  exact Chains.parses hparsed (p.lexemes_ne_nil line depth) (by decide) hsub

/-- A sum is read as an expression. -/
theorem parses_expression (e : Phrase .sum) (h : e.Admissible scope env) {line depth : Nat}
    (hparsed : Level.sum.Parsed (e.lexemes line depth) e.expr) :
    Parses (expression false) 10 Level.sum.follow (e.lexemes line depth) e.expr := by
  have hsub : ∀ s ∈ Level.sum.follow, s ∈ Level.product.follow ∧ binaryAt 8 s = none := by decide
  have hsum := Chains.parses hparsed (e.lexemes_ne_nil line depth) (by decide) hsub
  obtain ⟨k, ks, hks, hk⟩ := e.starts_lexemes h line depth
  rw [hks] at hsum ⊢
  exact hsum.expression (by decide) hk fun s hs => Level.endsOperation_of_mem_follow hs

theorem parsed (t : Phrase l) (h : t.Admissible scope env) (line depth : Nat) :
    l.Parsed (t.lexemes line depth) t.expr := by
  have hprimary : ∀ {ls e}, Parses (atom false) 23 Level.primary.follow ls e → ls ≠ [] →
      Level.primary.Parsed ls e := fun hatom hne =>
    hatom.primary hne (by decide) fun s hs => Level.endsValue_of_mem_follow hs
  have hclosing : Lexeme.symbol ")" ∈ Level.sum.follow := by decide
  have hpower : Lexeme.symbol "**" ∈ Level.primary.follow := by decide
  have hstar : Lexeme.symbol "*" ∈ Level.factor.follow := by decide
  have hsigns : ∀ s ∈ ["+", "-"], Lexeme.symbol s ∈ Level.product.follow := by decide
  induction t generalizing depth with
  | literal n =>
    have hlength : (toString n).length ≤ Decimal.maxIntegerDigits := h
    rw [← String.length_toList, toList_numeral] at hlength
    exact hprimary (parses_atom (by decide) fun fuel ks =>
      atom_numeral rfl (numeralLiteral_canonical hlength)) (List.cons_ne_nil _ _)
  | name s =>
    refine hprimary (parses_atom (by decide) fun fuel ks => ?_) (List.cons_ne_nil _ _)
    rw [atom_name rfl h.notReserved, normalize_of_isPlainName h.plain, String.ofList_toList]
    rfl
  | group e ih =>
    have hexpr := e.parses_expression h (ih h (depth + 1))
    have hassign := e.lexeme_ne_assign line (depth + 1)
    obtain ⟨k, ks, hks, hk⟩ := e.starts_lexemes h line (depth + 1)
    rw [hks] at hexpr hassign
    refine hprimary ?_ (List.cons_ne_nil _ _)
    rw [lexemes, hks]
    exact hexpr.group hk (fun k' hk' => hassign k' (List.mem_cons_of_mem k hk')) e.expr_ne_starred
      rfl rfl hclosing (by decide)
  | base p ih =>
    have hsub : ∀ s ∈ Level.power.follow, s ∈ Level.primary.follow ∧ s ≠ .symbol "**" := by decide
    have hp : Level.primary.Parsed (p.lexemes line depth) p.expr := ih h depth
    obtain ⟨k, ks, hks, hk⟩ := p.signAt_primary line depth
    rw [hks] at hp
    rw [lexemes, hks]
    exact Parses.base hp (by decide) hk hsub
  | raised p f ihp ihf =>
    have hp : Level.primary.Parsed (p.lexemes line depth) p.expr := ihp h.1 depth
    have hf : Level.factor.Parsed (f.lexemes line depth) f.expr := ihf h.2.1 depth
    obtain ⟨k, ks, hks, hk⟩ := p.signAt_primary line depth
    rw [hks] at hp
    rw [lexemes, hks]
    exact Parses.power hp hf (by decide) hk rfl hpower
  | unsigned g ih => exact ih h depth
  | minus f ih =>
    have hf : Level.factor.Parsed (f.lexemes line depth) f.expr := ih h depth
    exact Parses.sign hf (by decide) rfl
  | factor f ih =>
    have hf : Level.factor.Parsed (f.lexemes line depth) f.expr := ih h depth
    exact Parses.chains hf (f.lexemes_ne_nil line depth) (by decide) (by decide) (by decide)
  | times p q ihp ihq | beside p q ihp ihq =>
    have hp : Level.product.Parsed (p.lexemes line depth) p.expr := ihp h.1 depth
    have hq : Level.factor.Parsed (q.lexemes line depth) q.expr := ihq h.2 depth
    exact Chains.step hp hq (by decide) hstar rfl fun _ hs => hs
  | term p ih =>
    exact (p.parses_product (ih h depth)).chains (p.lexemes_ne_nil line depth) (by decide) (by decide)
      (by decide)
  | plus e p ihe ihp =>
    have he : Level.sum.Parsed (e.lexemes line depth) e.expr := ihe h.1 depth
    exact Chains.step he (p.parses_product (ihp h.2 depth)) (by decide) (hsigns "+" (by decide)) rfl
      fun _ hs => hs
  | less e p ihe ihp =>
    have he : Level.sum.Parsed (e.lexemes line depth) e.expr := ihe h.1 depth
    exact Chains.step he (p.parses_product (ihp h.2 depth)) (by decide) (hsigns "-" (by decide)) rfl
      fun _ hs => hs

end Phrase

end Formulary.Formula
