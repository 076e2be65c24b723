import Formulary.Proofs.Json.Nesting
import Formulary.Suggestion.Endpoint

/-!
# What answers come to

An answer comes to a list of candidates or to a failure, never to both. Whatever can be had without a
failure counts as a list; what is no list of items is the empty one. A reply of an endpoint fails
exactly if there is none, if its status says so, or if its text nests too deep.
-/

namespace Formulary

namespace Answer

variable {query : String} {answer : Answer} {o : Outcome}

/-- The candidates of an answer without a failure: the items with a name, in their order. -/
inductive Lists : Answer → List Operand → Prop where
  | items (items : List Json) (h : ∀ item ∈ items, Operand.idFault? item = none) :
      Lists (.payload (.arr items)) (items.filterMap Operand.ofItem?)
  | other {v : Json} (h : ∀ items, v ≠ .arr items) : Lists (.payload v) []
  | malformed (kind : String) : Lists (.malformed kind) []

/-- The failure of an answer to a query: a status or none, and what the source broke down with, or
what the first identifier that cannot be taken has at fault. -/
inductive Fails (query : String) : Answer → FetchFailure → Prop where
  | unwritable {items : List Json} {fault : Json.Unwritable}
      (h : items.findSome? Operand.idFault? = some fault) :
      Fails query (.payload (.arr items)) ⟨query, none, some s!"{fault.family}: {fault.message}"⟩
  | failure (status : Option Int) (detail : Option String) :
      Fails query (.failure status detail) ⟨query, status, detail⟩
  | breakdown (kind message : String) :
      Fails query (.breakdown kind message) ⟨query, none, some s!"{kind}: {message}"⟩

def Ends (query : String) (answer : Answer) : Outcome → Prop
  | .ok candidates => answer.Lists candidates
  | .error e => answer.Fails query e

theorem ends_payload (query : String) (v : Json) :
    (payload v).Ends query ((payload v).outcome query).value := by
  cases v with
  | arr items =>
    cases hfault : items.findSome? Operand.idFault? with
    | none =>
      have hvalue : ((payload (.arr items)).outcome query).value =
          .ok (items.filterMap Operand.ofItem?) := by
        simp [outcome, Suggestion.ofPayload, Suggestion.breakOff?, hfault, Suggestion.value_ofItems]
      rw [hvalue]
      exact Lists.items items (List.findSome?_eq_none_iff.mp hfault)
    | some fault =>
      have hvalue : ((payload (.arr items)).outcome query).value =
          .error (.ofBreakdown query fault.family fault.message) := by
        simp [outcome, Suggestion.ofPayload, Suggestion.breakOff?, hfault]
      rw [hvalue]
      exact Fails.unwritable hfault
  | null | bool | int | float | str | obj => exact Lists.other nofun

theorem ends_outcome (query : String) (answer : Answer) :
    answer.Ends query (answer.outcome query).value := by
  cases answer with
  | payload v => exact ends_payload query v
  | malformed kind => exact Lists.malformed kind
  | failure status detail => exact Fails.failure status detail
  | breakdown kind message => exact Fails.breakdown kind message

theorem Lists.unique {xs ys : List Operand} (hx : answer.Lists xs) (hy : answer.Lists ys) :
    xs = ys := by
  cases hx with
  | items items =>
    cases hy with
    | items => rfl
    | other h => exact absurd rfl (h items)
  | other h =>
    cases hy with
    | items items => exact absurd rfl (h items)
    | other => rfl
  | malformed kind =>
    cases hy
    rfl

theorem Fails.unique {d e : FetchFailure} (hd : answer.Fails query d) (he : answer.Fails query e) :
    d = e := by
  cases hd with
  | unwritable hfault =>
    cases he with
    | unwritable hfault' => rw [Option.some.inj (hfault.symm.trans hfault')]
  | failure | breakdown =>
    cases he
    rfl

theorem Lists.not_fails {xs : List Operand} (h : answer.Lists xs) (e : FetchFailure) :
    ¬ answer.Fails query e := by
  intro he
  cases he with
  | unwritable hfault =>
    cases h with
    | items items hnone => cases hfault.symm.trans (List.findSome?_eq_none_iff.mpr hnone)
    | other hother => exact hother _ rfl
  | failure | breakdown => cases h

theorem Ends.eq_outcome (h : answer.Ends query o) : (answer.outcome query).value = o := by
  have hends := ends_outcome query answer
  generalize (answer.outcome query).value = o' at hends ⊢
  cases o with
  | ok xs =>
    cases o' with
    | ok ys => rw [Lists.unique h hends]
    | error e => exact absurd hends (Lists.not_fails h e)
  | error e =>
    cases o' with
    | ok ys => exact absurd h (Lists.not_fails hends e)
    | error d => rw [Fails.unique h hends]

theorem lists_or_fails (query : String) (answer : Answer) :
    Xor (∃ candidates, answer.Lists candidates) (∃ e, answer.Fails query e) := by
  have hends := ends_outcome query answer
  cases ho : (answer.outcome query).value with
  | ok candidates =>
    rw [ho] at hends
    refine Or.inl ⟨⟨candidates, hends⟩, ?_⟩
    rintro ⟨e, he⟩
    exact Lists.not_fails hends e he
  | error e =>
    rw [ho] at hends
    refine Or.inr ⟨⟨e, hends⟩, ?_⟩
    rintro ⟨candidates, hc⟩
    exact Lists.not_fails hc e hends

end Answer

/-! ## Replies -/

namespace Reply

/-- What a failure tells of the body of its response. -/
def shown (body : String) : Option String :=
  if body = "" then none else some (String.ofList (body.toList.take 200))

theorem isFailure_iff {status : Int} : isFailure status = true ↔ 400 ≤ status ∧ status < 600 := by
  simp [isFailure]

theorem answer_failure {status : Int} (h : 400 ≤ status ∧ status < 600) (body : String) :
    (response status body).answer = .failure (some status) (shown body) := by
  simp [answer, isFailure_iff.mpr h, shown, shownBody]

/-- The answer in a response whose status is not that of a failure. -/
def read (body : String) : Answer :=
  match Json.read body with
  | .ok v => .payload v
  | .error .malformed => .malformed "invalid JSON"
  | .error (.tooDeep what) => .breakdown "RecursionError" (Json.ReadError.tooDeep what).message

theorem answer_success {status : Int} (h : ¬ (400 ≤ status ∧ status < 600)) (body : String) :
    (response status body).answer = read body := by
  have hnot : ¬ isFailure status = true := fun hf => h (isFailure_iff.mp hf)
  rw [answer, if_neg hnot]
  rfl

/-- No identifier in a text that is read is too long or nests too deep. -/
theorem idFault?_of_read {body : String} {items : List Json}
    (h : Json.read body = .ok (.arr items)) : ∀ item ∈ items, Operand.idFault? item = none := by
  intro item hitem
  have hwritable := Json.unwritable?_of_mem (Json.unwritable?_of_read h) hitem
  unfold Operand.idFault?
  split
  · exact Option.bind_eq_none_iff.mpr fun id hid => Json.unwritable?_of_field? hwritable hid
  · rfl

/-- The list that a body holds, or the empty one if it holds another value or is not well formed. -/
inductive Holds (body : String) : List Operand → Prop where
  | items {items : List Json} (h : Json.read body = .ok (.arr items)) :
      Holds body (items.filterMap Operand.ofItem?)
  | other {v : Json} (h : Json.read body = .ok v) (hv : ∀ items, v ≠ .arr items) : Holds body []
  | malformed (h : Json.read body = .error .malformed) : Holds body []

theorem lists_read_iff {body : String} {candidates : List Operand} :
    (read body).Lists candidates ↔ Holds body candidates := by
  constructor
  · intro h
    unfold read at h
    split at h
    · rename_i v hv
      cases h with
      | items items => exact .items hv
      | other hother => exact .other hv hother
    · rename_i hv
      cases h
      exact .malformed hv
    · cases h
  · intro h
    cases h with
    | items h =>
      rw [read, h]
      exact .items _ (idFault?_of_read h)
    | other h hv =>
      rw [read, h]
      exact .other hv
    | malformed h =>
      rw [read, h]
      exact .malformed _

/-- The failure of a body that nests too deep. -/
def tooDeep (query what : String) : FetchFailure :=
  ⟨query, none, some s!"RecursionError: {(Json.ReadError.tooDeep what).message}"⟩

theorem fails_read_iff {query body : String} {e : FetchFailure} :
    (read body).Fails query e ↔
      ∃ what, Json.read body = .error (.tooDeep what) ∧ e = tooDeep query what := by
  constructor
  · intro h
    unfold read at h
    split at h
    · rename_i v hv
      cases h with
      | unwritable hfault =>
        cases hfault.symm.trans (List.findSome?_eq_none_iff.mpr (idFault?_of_read hv))
    · cases h
    · rename_i what hv
      cases h
      exact ⟨what, hv, rfl⟩
  · rintro ⟨what, h, rfl⟩
    rw [read, h]
    exact .breakdown _ _

theorem lists_iff {reply : Reply} {candidates : List Operand} :
    reply.answer.Lists candidates ↔
      ∃ status body, reply = .response status body ∧ ¬ (400 ≤ status ∧ status < 600) ∧
        Holds body candidates := by
  cases reply with
  | refused message => exact ⟨nofun, nofun⟩
  | response status body =>
    by_cases h : 400 ≤ status ∧ status < 600
    · rw [answer_failure h]
      refine ⟨nofun, ?_⟩
      rintro ⟨_, _, ⟨⟩, hnot, -⟩
      exact absurd h hnot
    · rw [answer_success h]
      refine ⟨fun hl => ⟨status, body, rfl, h, lists_read_iff.mp hl⟩, ?_⟩
      rintro ⟨_, _, ⟨⟩, -, hl⟩
      exact lists_read_iff.mpr hl

/-- The failure of a reply to a query. -/
inductive Refuses (query : String) : Reply → FetchFailure → Prop where
  | refused (message : String) : Refuses query (.refused message) ⟨query, none, some message⟩
  | status {status : Int} (h : 400 ≤ status ∧ status < 600) (body : String) :
      Refuses query (.response status body) ⟨query, some status, shown body⟩
  | tooDeep {status : Int} (h : ¬ (400 ≤ status ∧ status < 600)) {body what : String}
      (hread : Json.read body = .error (.tooDeep what)) :
      Refuses query (.response status body) (tooDeep query what)

theorem fails_iff {reply : Reply} {query : String} {e : FetchFailure} :
    reply.answer.Fails query e ↔ Refuses query reply e := by
  constructor
  · intro hf
    cases reply with
    | refused message =>
      cases hf
      exact .refused message
    | response status body =>
      by_cases h : 400 ≤ status ∧ status < 600
      · rw [answer_failure h] at hf
        cases hf
        exact .status h body
      · rw [answer_success h] at hf
        obtain ⟨what, hread, rfl⟩ := fails_read_iff.mp hf
        exact .tooDeep h hread
  · intro hf
    cases hf with
    | refused message => exact .failure none (some message)
    | @status status h body =>
      rw [answer_failure h]
      exact .failure (some status) (shown body)
    | tooDeep h hread =>
      rw [answer_success h]
      exact fails_read_iff.mpr ⟨_, hread, rfl⟩

end Reply

end Formulary
