import Formulary.Proofs.Cache.Recency

/-!
# Blanks around the queries of a cache

A cache takes no notice of the blanks around a query, whatever is done with it: accesses that are the
same without those blanks are answered in the same way and leave the same cache. A query that is
nothing but blanks is never found and changes nothing.
-/

namespace Formulary

@[simp] theorem queryKey_queryKey (query : String) : queryKey (queryKey query) = queryKey query :=
  Text.trim_trim query

namespace Cache

namespace Access

/-- The access without the blanks around its query. -/
def trimmed : Access → Access
  | .get query => .get (queryKey query)
  | .contains query => .contains (queryKey query)
  | .set query candidates => .set (queryKey query) candidates
  | .markPending query => .markPending (queryKey query)
  | .markError query message => .markError (queryKey query) message
  | .invalidate query => .invalidate (query.map queryKey)

/-- The query of an access. There is none when everything is dropped. -/
def query? : Access → Option String
  | .get query | .contains query | .set query _ | .markPending query | .markError query _ =>
    some query
  | .invalidate query => query

end Access

/-- What an access is answered with. -/
inductive Response where
  | nothing
  | entry (e : Option CacheEntry)
  | held (b : Bool)
deriving DecidableEq, Repr

/-- The answer to an access, with the cache behind it. -/
def respond (c : Cache) : Access → Noted (Response × Cache)
  | .get query => pure (.entry (c.get? query), c)
  | .contains query => pure (.held (c.contains query), c)
  | .set query candidates => do return (.nothing, ← c.set query candidates)
  | .markPending query => do return (.nothing, ← c.markPending query)
  | .markError query message => do return (.nothing, ← c.markError query message)
  | .invalidate query => pure (.nothing, c.invalidate query)

/-- The answers to some accesses, each with its notices and the cache behind it. -/
def transcript (c : Cache) : List Access → List (Noted (Response × Cache))
  | [] => []
  | a :: rest => c.respond a :: transcript (c.respond a).value.2 rest

/-- The answer to an access when there is no entry. -/
def Access.miss : Access → Response
  | .get _ => .entry none
  | .contains _ => .held false
  | .set .. | .markPending _ | .markError .. | .invalidate _ => .nothing

variable {c : Cache} {query : String}

/-! ## The blanks are dropped -/

@[simp] theorem get?_queryKey (c : Cache) (query : String) :
    c.get? (queryKey query) = c.get? query := by
  rw [get?, queryKey_queryKey, get?]

@[simp] theorem put_queryKey (c : Cache) (query : String) (entry : CacheEntry) :
    c.put (queryKey query) entry = c.put query entry := by
  simp only [put, queryKey_queryKey]

@[simp] theorem invalidate_queryKey (c : Cache) (query : Option String) :
    c.invalidate (query.map queryKey) = c.invalidate query := by
  cases query with
  | none => rfl
  | some q => simp only [Option.map_some, invalidate, queryKey_queryKey]

theorem respond_trimmed (c : Cache) (a : Access) : c.respond a.trimmed = c.respond a := by
  cases a <;>
    simp only [Access.trimmed, respond, contains, set, markPending, markError, get?_queryKey,
      put_queryKey, invalidate_queryKey]

theorem transcript_trimmed (c : Cache) (accesses : List Access) :
    c.transcript (accesses.map Access.trimmed) = c.transcript accesses := by
  induction accesses generalizing c with
  | nil => rfl
  | cons a rest ih => rw [List.map_cons, transcript, respond_trimmed, ih, transcript]

theorem transcript_congr (c : Cache) {accesses accesses' : List Access}
    (h : accesses.map Access.trimmed = accesses'.map Access.trimmed) :
    c.transcript accesses = c.transcript accesses' := by
  rw [← transcript_trimmed, h, transcript_trimmed]

/-! ## Nothing but blanks -/

theorem get?_blank (hc : c.Valid) (h : queryKey query = "") : c.get? query = none := by
  cases he : c.get? query with
  | none => rfl
  | some e => exact absurd h (hc.key_ne_of_get? he)

theorem put_eq_pure (h : queryKey query = "") (c : Cache) (entry : CacheEntry) :
    c.put query entry = pure c := by
  simp [put, h]

theorem invalidate_blank (hc : c.Valid) (h : queryKey query = "") : c.invalidate query = c := by
  have hkept : without "" c.entries = c.entries := by
    rw [without, List.filter_eq_self]
    intro e he
    exact decide_eq_true (hc.isKey e.1 (List.mem_map_of_mem he)).1
  simp only [invalidate, h, hkept]

theorem respond_blank (hc : c.Valid) {a : Access} (ha : a.query? = some query)
    (h : queryKey query = "") : c.respond a = pure (a.miss, c) := by
  cases a with
  | get q =>
    cases ha
    rw [respond, get?_blank hc h, Access.miss]
  | contains q =>
    cases ha
    rw [respond, contains, get?_blank hc h, Option.isSome_none, Access.miss]
  | set q candidates =>
    cases ha
    rw [respond, set, put_eq_pure h]
    rfl
  | markPending q =>
    cases ha
    rw [respond, markPending, put_eq_pure h]
    rfl
  | markError q message =>
    cases ha
    rw [respond, markError, put_eq_pure h]
    rfl
  | invalidate q =>
    cases ha
    rw [respond, invalidate_blank hc h, Access.miss]

end Cache

end Formulary
