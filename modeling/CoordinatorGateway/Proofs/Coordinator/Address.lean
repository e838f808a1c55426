import CoordinatorGateway.Coordinator.Address
import CoordinatorGateway.Proofs.Text.Pieces
import CoordinatorGateway.Proofs.Text.Trimming

namespace CoordinatorGateway.Address

/-- The address names a scheme, and there are no blanks around it. -/
structure Normal (address : String) : Prop where
  schemed : "://".toList <:+: address.toList
  first : ∀ c ∈ address.toList.head?, Unicode.isBlank c = false
  last : ∀ c ∈ address.toList.getLast?, Unicode.isBlank c = false

variable {address : String}

/-- The normal form is the trimmed address, or has a scheme put in front of it. -/
theorem normalize_cases (address : String) :
    ("://".toList <:+: (Text.trim address).toList ∧ normalize address = Text.trim address) ∨
      normalize address = "http://" ++ Text.trim address := by
  rw [normalize]
  split
  · next h => exact .inl ⟨Text.occursIn_eq_true_iff.1 h, rfl⟩
  · exact .inr rfl

theorem normal_normalize (address : String) : Normal (normalize address) := by
  obtain ⟨-, hfirst, hlast⟩ := Text.trims_trimChars address.toList
  have htrim : (Text.trim address).toList = Unicode.trimChars address.toList :=
    String.toList_ofList
  rcases normalize_cases address with ⟨hschemed, hsame⟩ | hadded
  · rw [← htrim] at hfirst hlast
    rw [hsame]
    exact ⟨hschemed, hfirst, hlast⟩
  · have htext : (normalize address).toList =
        "http://".toList ++ Unicode.trimChars address.toList := by
      rw [hadded, String.toList_append, htrim]
    refine ⟨?_, fun c hc => ?_, fun c hc => ?_⟩
    · rw [htext]
      exact ⟨"http".toList, Unicode.trimChars address.toList, rfl⟩
    · rw [htext] at hc
      obtain rfl := Option.some.inj hc
      decide
    · rw [htext, List.getLast?_append] at hc
      -- The last character is that of the trimmed address, or the slash of the scheme.
      cases htrimmed : (Unicode.trimChars address.toList).getLast? with
      | none =>
        rw [htrimmed] at hc
        obtain rfl := Option.some.inj hc
        decide
      | some d =>
        rw [htrimmed] at hc
        obtain rfl := Option.some.inj hc
        exact hlast _ htrimmed

theorem Normal.normalize_eq (h : Normal address) : normalize address = address := by
  have htrim : Text.trim address = address := by
    rw [Text.trim, Text.trimChars_eq_self_iff.2 ⟨h.first, h.last⟩, String.ofList_toList]
  rw [normalize, htrim]
  exact if_pos (Text.occursIn_eq_true_iff.2 h.schemed)

theorem normalize_eq_self_iff : normalize address = address ↔ Normal address :=
  ⟨fun h => h ▸ normal_normalize address, Normal.normalize_eq⟩

theorem normalize_normalize (address : String) :
    normalize (normalize address) = normalize address :=
  (normal_normalize address).normalize_eq

/-- Where the address is empty, only the scheme is left. -/
example : normalize " \t" = "http://" := by decide

end CoordinatorGateway.Address
