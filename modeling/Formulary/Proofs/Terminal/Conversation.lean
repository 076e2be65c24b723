import Formulary.Proofs.Terminal.Answer
import Formulary.Terminal.Conversation

/-!
# Conversations

No line changes the settings of a session. So a conversation whose bindings were read goes on until it
is left, if no call lapses.
-/

namespace Formulary.Session

variable {s : Session}

theorem Leads.config {s' : Session} (h : s.Leads s') : s'.config = s.config := by
  cases h with
  | stays | handled => rfl
  | fetched => rw [value_refresh]; rfl

theorem config_takeLine (s : Session) (line : String) :
    (s.takeLine line).value.2.config = s.config := by
  have ht := taken s line
  generalize (s.takeLine line).value = r at ht ⊢
  cases ht with
  | helped | listed | failed | unknown | misplaced | quit => rfl
  | shown hs => exact hs.config

/-- The conversation can go on behind a line, or was left by it. -/
structure Goes (s : Session) (r : String × Progress × Session) : Prop where
  progress : r.2.1 = .going ∨ r.2.1 = .over
  settled : r.2.2.Settled
  config : r.2.2.config = s.config

theorem Settled.goes_converse (h : s.Settled) (hscope : s.config.scope.Parsed) (input : UserInput) :
    s.Goes (s.converse input).value := by
  cases input with
  | interrupt => exact ⟨Or.inl rfl, h, rfl⟩
  | endOfInput => exact ⟨Or.inr rfl, h, rfl⟩
  | line l =>
    have hanswer := (taken s l).answer hscope.read
    have hsettled := h.takeLine l
    have hconfig := s.config_takeLine l
    rw [converse, Noted.value_bind, h.submit l]
    generalize (s.takeLine l).value = r at hanswer hsettled hconfig ⊢
    obtain ⟨a, s'⟩ := r
    rcases hanswer with ⟨t, rfl⟩ | rfl
    · exact ⟨Or.inl rfl, hsettled, hconfig⟩
    · exact ⟨Or.inr rfl, hsettled, hconfig⟩

/-- The settings stay as they were read, so that no input of a conversation stops it. -/
theorem Settled.transcript_over (h : s.Settled) (hscope : s.config.scope.Parsed)
    (inputs : List UserInput) : (s.transcript inputs).value.2.1 = .over := by
  induction inputs generalizing s with
  | nil => rfl
  | cons input rest ih =>
    have hgoes := h.goes_converse hscope input
    rw [transcript, Noted.value_bind]
    generalize (s.converse input).value = r at hgoes ⊢
    obtain ⟨out, progress, s'⟩ := r
    rcases hgoes.progress with rfl | rfl
    · exact ih hgoes.settled (hgoes.config ▸ hscope)
    · rfl

end Formulary.Session
