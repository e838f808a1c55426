import CoordinatorGateway.Coordinator.Status
import CoordinatorGateway.Proofs.Text.Trimming
import CoordinatorGateway.Proofs.Text.Utf8

namespace CoordinatorGateway

namespace StatusCode

def failureCode : StatusCode → FailureCode
  | .invalidArgument | .outOfRange => .invalidArgument
  | .notFound => .notFound
  | .alreadyExists | .aborted => .conflict
  | .unavailable | .resourceExhausted | .failedPrecondition => .unavailable
  | .deadlineExceeded => .timeout
  | .cancelled => .cancelled
  | .ok | .unknown | .permissionDenied | .unimplemented | .internal | .dataLoss
  | .unauthenticated => .internal

/-- What stands before the detail, where the failure gives one at all. -/
def lead? : StatusCode → Option String
  | .deadlineExceeded | .cancelled => none
  | .invalidArgument | .outOfRange | .notFound | .alreadyExists | .aborted | .resourceExhausted
  | .failedPrecondition => some ""
  | .unavailable => some "Coordinator is unavailable: "
  | .ok | .unknown | .permissionDenied | .unimplemented | .internal | .dataLoss
  | .unauthenticated => some "Coordinator error: "

theorem lead?_eq_none_iff {code : StatusCode} :
    code.lead? = none ↔ code = .deadlineExceeded ∨ code = .cancelled := by
  cases code <;> decide

theorem description_ne_empty (code : StatusCode) : code.description ≠ "" := by
  cases code <;> decide

theorem length_description_le (code : StatusCode) : code.description.length ≤ 203 := by
  cases code <;> decide +kernel

end StatusCode

namespace Redaction

/-- What is shown of a redacted and trimmed text, or instead of an empty one. A cut falls between
characters, also of those that are spelled with many bytes. -/
structure Shows (text : List Char) (instead shown : String) : Prop where
  whole : text ≠ [] → text.length ≤ 200 → shown.toList = text
  cut : 200 < text.length → shown.toList = text.take 200 ++ ['.', '.', '.']
  cutBytes : 200 < text.length →
    Bytes.ofText shown = (text.take 200).flatMap String.utf8EncodeChar ++ [46, 46, 46]
  instead : text = [] → shown = instead

namespace Shows

variable {text : List Char} {instead shown : String}

theorem ne_empty (h : Shows text instead shown) (hinstead : instead ≠ "") : shown ≠ "" := by
  rintro rfl
  by_cases hempty : text = []
  · exact hinstead (h.instead hempty).symm
  · rcases Nat.lt_or_ge 200 text.length with hlong | hshort
    · exact List.append_ne_nil_of_right_ne_nil _ (by decide) (h.cut hlong).symm
    · exact hempty (h.whole hempty hshort).symm

theorem length_le (h : Shows text instead shown) (hinstead : instead.length ≤ 203) :
    shown.length ≤ 203 := by
  by_cases hempty : text = []
  · rw [h.instead hempty]
    exact hinstead
  · rw [← String.length_toList]
    rcases Nat.lt_or_ge 200 text.length with hlong | hshort
    · rw [h.cut hlong, List.length_append, List.length_take_of_le (Nat.le_of_lt hlong)]
      exact Nat.le_refl _
    · rw [h.whole hempty hshort]
      omega

end Shows

theorem shows_of_shorten {text : List Char} {instead shown : String} (hne : text ≠ [])
    (h : shown.toList = shorten text) : Shows text instead shown := by
  have hcut (hlong : 200 < text.length) : shown.toList = text.take 200 ++ ['.', '.', '.'] := by
    rw [h, shorten, maxLength, if_neg (Nat.not_le.2 hlong)]
  exact {
    whole := fun _ hshort => by rw [h, shorten, maxLength, if_pos hshort]
    cut := hcut
    cutBytes := fun hlong => by
      rw [Bytes.ofText_eq_flatMap, hcut hlong, List.flatMap_append]
      rfl
    instead := fun hempty => absurd hempty hne }

theorem shorten_eq_nil_iff {text : List Char} : shorten text = [] ↔ text = [] := by
  rw [shorten]
  split
  · exact Iff.rfl
  · next hlong =>
    constructor
    · intro h
      cases (List.append_eq_nil_iff.1 h).2
    · rintro rfl
      exact absurd (Nat.zero_le _) hlong

end Redaction

namespace Status

theorem shows_detail (s : Status) :
    Redaction.Shows (Redaction.redactChars s.message.toList) s.code.description s.detail := by
  rw [detail]
  split
  · next hempty =>
    -- The cut leaves nothing only where nothing was before it.
    have hshort := String.ofList_eq_empty_iff.1 (String.isEmpty_iff.1 hempty)
    rw [Redaction.shorten_eq_nil_iff.1 hshort]
    exact ⟨fun hne => absurd rfl hne, fun hlong => absurd hlong (by decide),
      fun hlong => absurd hlong (by decide), fun _ => rfl⟩
  · next hnot =>
    apply Redaction.shows_of_shorten
    · rintro hnil
      rw [redact, hnil] at hnot
      exact hnot rfl
    · rw [redact, String.toList_ofList]

theorem code_failure (s : Status) (method : String) (timeout : Duration) :
    (s.failure method timeout).code = s.code.failureCode := by
  obtain ⟨code, message⟩ := s
  cases code <;> rfl

theorem message_failure (s : Status) (method : String) (timeout : Duration) {lead : String}
    (h : lead ∈ s.code.lead?) : (s.failure method timeout).message = lead ++ s.detail := by
  rw [failure]
  generalize s.code = code at h ⊢
  cases code with
  | deadlineExceeded | cancelled => cases h
  | invalidArgument | outOfRange | notFound | alreadyExists | aborted | resourceExhausted
  | failedPrecondition =>
    cases h
    exact String.empty_append.symm
  | unavailable | ok | unknown | permissionDenied | unimplemented | internal | dataLoss
  | unauthenticated =>
    cases h
    rfl

theorem failure_of_lead?_eq_none {code : StatusCode} (h : code.lead? = none)
    (message other method : String) (timeout : Duration) :
    failure ⟨code, other⟩ method timeout = failure ⟨code, message⟩ method timeout := by
  rcases StatusCode.lead?_eq_none_iff.1 h with rfl | rfl <;> simp only [failure]

/-- What a client is told of a call that is refused with a code number and a message. Its class is
that of the code. Its text is a fixed one, or a lead of the code before a detail: the message as the
rules leave it, trimmed and cut, or the description of the code. -/
theorem failure_tells (number : Int) (message method : String) (timeout : Duration) :
    let code := StatusCode.ofNumber number
    let f := failure ⟨code, message⟩ method timeout
    f.code = code.failureCode ∧
    (∀ lead ∈ code.lead?, ∃ text detail, f.message = lead ++ detail ∧
      Text.Trims (Redaction.rules.foldl (fun text rule => rule.apply text) message.toList) text ∧
      Redaction.Shows text code.description detail ∧ detail ≠ "" ∧ detail.length ≤ 203) ∧
    (code.lead? = none → ∀ other, failure ⟨code, other⟩ method timeout = f) := by
  intro code f
  refine ⟨code_failure _ method timeout, fun lead hlead => ?_,
    fun hnone other => failure_of_lead?_eq_none hnone message other method timeout⟩
  have hshows := shows_detail ⟨code, message⟩
  exact ⟨_, _, message_failure ⟨code, message⟩ method timeout hlead, Text.trims_trimChars _,
    hshows, hshows.ne_empty code.description_ne_empty, hshows.length_le code.length_description_le⟩

example : redact "/a" = "[path]" := by
  decide +kernel

end Status

end CoordinatorGateway
