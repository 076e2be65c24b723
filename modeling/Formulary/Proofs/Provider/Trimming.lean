import Formulary.Proofs.Cache.Trimming
import Formulary.Proofs.Provider.SingleFlight

/-!
# Blanks around the queries of a provider

Two runs whose queries differ in nothing but the blanks around them cannot be told apart: whoever
looks, asks or waits is told the same, the source is called with the same queries, and cache and loads
are the same all the time, down to their order. Nothing is kept or sent for a query that is nothing but
blanks.
-/

namespace Formulary.Provider

open Cache (Access IsKey)

variable {p : Provider} {query : String}

def Move.trimmed : Move → Move
  | .fetch waiter query => .fetch waiter (queryKey query)
  | .invalidate query => .invalidate (query.map queryKey)
  | .cancel waiter => .cancel waiter
  | .call load => .call load
  | .receive load answer => .receive load answer
  | .settle load => .settle load

/-- A turn of a run: a move, or a look at what is known of a query. -/
inductive Turn where
  | move (m : Move)
  | peek (query : String)

/-- The turn without the blanks around its query. -/
def Turn.trimmed : Turn → Turn
  | .move m => .move m.trimmed
  | .peek query => .peek (queryKey query)

/-- The notices that arise in a step. -/
def Step.notices (s : Step) : List Notice :=
  match s.move with
  | .fetch waiter query => (s.before.fetch waiter query).notices
  | .call load => (s.before.call load).notices
  | .receive load answer => (s.before.receive load answer).notices
  | .cancel _ | .invalidate _ | .settle _ => []

/-- All that can be seen of a turn. -/
structure Sight where
  /-- The candidates that a look shows. -/
  known : Option (List Operand) := none
  /-- The query with which the source is called. -/
  asked : Option String := none
  notices : List Notice := []
  /-- The provider behind the turn, with the results of those who wait no longer. -/
  after : Provider

def sight (p : Provider) : Turn → Sight
  | .peek query => { known := some (p.peek query), after := p }
  | .move m =>
    let s : Step := ⟨p, m⟩
    { asked := s.asked?, notices := s.notices, after := s.after }

/-- What is seen of some turns, one after the other. The answers of the source are part of them. -/
def sights (p : Provider) : List Turn → List Sight
  | [] => []
  | t :: rest => p.sight t :: sights (p.sight t).after rest

/-! ## The blanks are dropped -/

theorem peek_queryKey (p : Provider) (query : String) : p.peek (queryKey query) = p.peek query := by
  simp only [peek, Cache.get?_queryKey]

theorem fetch_queryKey (p : Provider) (waiter : Nat) (query : String) :
    p.fetch waiter (queryKey query) = p.fetch waiter query := by
  simp only [fetch, queryKey_queryKey]

theorem invalidate_queryKey (p : Provider) (query : Option String) :
    p.invalidate (query.map queryKey) = p.invalidate query := by
  simp only [invalidate, Cache.invalidate_queryKey]

theorem sight_trimmed (p : Provider) (t : Turn) : p.sight t.trimmed = p.sight t := by
  cases t with
  | peek query => simp only [Turn.trimmed, sight, peek_queryKey]
  | move m =>
    cases m with
    | cancel | call | receive | settle => rfl
    | fetch waiter query =>
      simp only [Turn.trimmed, Move.trimmed, sight, Step.asked?, Step.notices, Step.after, move,
        fetch_queryKey]
    | invalidate query =>
      simp only [Turn.trimmed, Move.trimmed, sight, Step.asked?, Step.notices, Step.after, move,
        invalidate_queryKey]

theorem sights_trimmed (p : Provider) (turns : List Turn) :
    p.sights (turns.map Turn.trimmed) = p.sights turns := by
  induction turns generalizing p with
  | nil => rfl
  | cons t rest ih => rw [List.map_cons, sights, sight_trimmed, ih, sights]

theorem sights_congr (p : Provider) {turns turns' : List Turn}
    (h : turns.map Turn.trimmed = turns'.map Turn.trimmed) : p.sights turns = p.sights turns' := by
  rw [← sights_trimmed, h, sights_trimmed]

/-! ## Nothing but blanks -/

theorem peek_of_blank (h : p.Sound) (hquery : queryKey query = "") : p.peek query = [] := by
  simp only [peek, Cache.get?_blank h.cache hquery]

theorem fetch_blank (p : Provider) (waiter : Nat) (hquery : queryKey query = "") :
    p.fetch waiter query = pure (p.finish waiter (.answered (.ok []))) := by
  simp [fetch, hquery]

theorem invalidate_of_blank (h : p.Sound) (hquery : queryKey query = "") :
    p.invalidate query = p := by
  rw [invalidate, Cache.invalidate_blank h.cache hquery]

theorem Sound.isKey_inFlight (h : p.Sound) {k : String} (hk : k ∈ p.inFlight) : IsKey k := by
  obtain ⟨e, he, rfl⟩ := List.mem_map.mp hk
  exact h.isKey e he

/-- Blanks around queries make no difference to what a cache or a provider does. No blank query is
found, kept, waited for or sent, and what is kept, waited for or sent has no blanks around it. -/
theorem surrounding_blanks_do_not_matter :
    (∀ (c : Cache) (accesses accesses' : List Access),
      accesses.map Access.trimmed = accesses'.map Access.trimmed →
        c.transcript accesses = c.transcript accesses') ∧
    (∀ (p : Provider) (turns turns' : List Turn),
      turns.map Turn.trimmed = turns'.map Turn.trimmed → p.sights turns = p.sights turns') ∧
    ∀ size cache, Cache.ofCapacity size = .ok cache →
      (∀ accesses, let c := cache.run accesses
        (∀ k ∈ c.keys, k ≠ "" ∧ Text.trim k = k) ∧
          ∀ (a : Access) query, a.query? = some query → Text.trim query = "" →
            c.respond a = pure (a.miss, c)) ∧
      ∀ moves, let p := run { cache } moves
        (∀ k ∈ p.cache.keys ++ p.inFlight, k ≠ "" ∧ Text.trim k = k) ∧
          (∀ s ∈ steps { cache } moves, ∀ k, s.asked? = some k → k ≠ "" ∧ Text.trim k = k) ∧
          ∀ query, Text.trim query = "" →
            p.peek query = [] ∧ p.invalidate query = p ∧
              ∀ waiter, p.fetch waiter query = pure (p.finish waiter (.answered (.ok []))) := by
  refine ⟨fun c _ _ => c.transcript_congr, fun p _ _ => p.sights_congr, ?_⟩
  intro size cache hcache
  have hvalid : cache.Valid := Cache.valid_of_entries_nil (Cache.ofCapacity_eq hcache).1
  refine ⟨?_, ?_⟩
  · intro accesses c
    have hc : c.Valid := hvalid.run accesses
    exact ⟨hc.isKey, fun a query ha hquery => Cache.respond_blank hc ha hquery⟩
  · intro moves p
    have hstart : Sound { cache } := sound_new hvalid
    have hp : p.Sound := hstart.run moves
    refine ⟨?_, ?_, ?_⟩
    · intro k hk
      rcases List.mem_append.mp hk with hk | hk
      · exact hp.cache.isKey k hk
      · exact hp.isKey_inFlight hk
    · intro s hs k hasked
      exact (sound_of_mem_steps hstart hs).isKey_of_asked? hasked
    · intro query hquery
      exact ⟨peek_of_blank hp hquery, invalidate_of_blank hp hquery,
        fun waiter => fetch_blank p waiter hquery⟩

/-- A query in three spellings, and one that is nothing but blanks. -/
def spelledTurns : List Turn :=
  [.move (.fetch 0 " x"), .move (.fetch 1 "x\u3000"), .move (.call 0), .peek "\tx",
    .move (.fetch 2 "\u00a0"), .move (.invalidate (some "x\n"))]

/-- The same turns in one spelling. -/
def plainTurns : List Turn :=
  [.move (.fetch 0 "x"), .move (.fetch 1 "x"), .move (.call 0), .peek "x", .move (.fetch 2 ""),
    .move (.invalidate (some "x"))]

theorem surrounding_blanks_do_not_matter_spelled :
    let cache : Cache := { capacity := 1 }
    let p := run { cache } [.fetch 0 " x", .call 0]
    Cache.ofCapacity 1 = .ok cache ∧
      spelledTurns.map Turn.trimmed = plainTurns.map Turn.trimmed ∧
      sights { cache } spelledTurns = sights { cache } plainTurns ∧
      cache.transcript [.set " x" [], .contains "x\x1f"] =
        cache.transcript [.set "x" [], .contains "\u2003x"] ∧
      (cache.run [.markPending "x "]).keys = ["x"] ∧
      (cache.run [.markPending "x "]).respond (.get " \t") =
        pure (.entry none, cache.run [.markPending "x "]) ∧
      p.inFlight = ["x"] ∧ p.peek "\u2028" = [] ∧ p.invalidate " " = p := by
  intro cache p
  have hcache : Cache.ofCapacity 1 = .ok cache := rfl
  have hspelled : ∀ q ∈ [" x", "x\u3000", "x", "\tx", "x\n", "x\x1f", "\u2003x"],
      queryKey q = "x" := by decide +kernel
  simp only [List.forall_mem_cons] at hspelled
  obtain ⟨h₁, h₂, h₃, h₄, h₅, h₆, h₇, -⟩ := hspelled
  have hblank : queryKey "\u00a0" = queryKey "" := by decide +kernel
  have hturns : spelledTurns.map Turn.trimmed = plainTurns.map Turn.trimmed := by
    simp only [spelledTurns, plainTurns, List.map_cons, List.map_nil, Turn.trimmed, Move.trimmed,
      Option.map_some, h₁, h₂, h₃, h₄, h₅, hblank]
  have haccesses : ([.set " x" [], .contains "x\x1f"] : List Access).map Access.trimmed =
      ([.set "x" [], .contains "\u2003x"] : List Access).map Access.trimmed := by
    simp only [List.map_cons, List.map_nil, Access.trimmed, h₁, h₃, h₆, h₇]
  obtain ⟨htranscript, hsights, hrun⟩ := surrounding_blanks_do_not_matter
  obtain ⟨hstored, hmoves⟩ := hrun 1 cache hcache
  obtain ⟨-, hmiss⟩ := hstored [.markPending "x "]
  obtain ⟨-, -, hnothing⟩ := hmoves [.fetch 0 " x", .call 0]
  obtain ⟨hpeek, -, -⟩ := hnothing "\u2028" (by decide +kernel)
  obtain ⟨-, hkept, -⟩ := hnothing " " (by decide +kernel)
  exact ⟨hcache, hturns, hsights _ _ _ hturns, htranscript _ _ _ haccesses, by decide +kernel,
    hmiss (.get " \t") " \t" rfl (by decide +kernel), by decide +kernel, hpeek, hkept⟩

end Formulary.Provider
