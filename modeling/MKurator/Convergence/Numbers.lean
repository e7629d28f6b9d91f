import MKurator.Convergence.Attributes

/-! Counters that mqweb shows as JSON numbers, and the decimal texts that the custom resource asks for. -/

namespace MKurator.Convergence
open MKurator.Api MKurator.Lib.Strings MKurator.MqAdmin MKurator.MqRest MKurator.Controller

section Numbers

theorem numericAttrKeys_plain : ∀ key ∈ numericAttrKeys, key.toList.all isPlain = true ∧
    String.ofList (key.toList.map Char.toLower) = key ∧ key ≠ "topicstr" := by
  decide

variable [UnicodeTables]

/-- A DISPLAY answer has the parameter, and every copy of it, in whatever case, is the number `n`. -/
structure ShowsNumber (resp : MqscResponse) (key : String) (n : Nat) : Prop where
  shown : ∃ entry ∈ resp.parameterEntries, toLower entry.1 = key
  number : ∀ entry ∈ resp.parameterEntries, toLower entry.1 = key → entry.2 = .number n

theorem ShowsNumber.attributes {resp : MqscResponse} {key : String} {n : Nat} (shows_n : ShowsNumber resp key n) :
    ∃ attrs, resp.firstObjectAttributes = .ok attrs ∧ attrs.get key = sprintFloat n := by
  obtain ⟨entry, member, rfl⟩ := shows_n.shown
  have value := shows_n.number entry member rfl
  obtain ⟨attrs, decoded, stored⟩ := MqscResponse.firstObjectAttributes_of_shown member fun other inside same => by
    rw [shows_n.number other inside same, value]
  refine ⟨attrs, decoded, ?_⟩
  rw [StringMap.get, stored, value]
  rfl

theorem attributeValueMatches_numeric {key : String} (numeric : key ∈ numericAttrKeys) (desired observed : String) :
    attributeValueMatches key desired observed = true ↔
      normalizeNumericString desired = normalizeNumericString observed := by
  obtain ⟨plain, lower, other⟩ := numericAttrKeys_plain key numeric
  exact attributeValueMatches_of_numeric ((normalizeAttrKey_literal plain lower other).symm ▸ numeric) desired observed

theorem matches_short {key : String} (numeric : key ∈ numericAttrKeys) {n : Nat} (short : n < 10 ^ 6) (m : Int) :
    attributeValueMatches key (toString m) (sprintFloat n) = true ↔ m = n := by
  rw [attributeValueMatches_numeric numeric, sprintFloat_of_short n short, normalizeNumericString_toString,
    normalizeNumericString_toString]
  exact toString_int_inj

theorem not_matches_long {key : String} (numeric : key ∈ numericAttrKeys) {n : Nat} (long : 10 ^ 6 ≤ n) (m : Int) :
    ¬attributeValueMatches key (toString m) (sprintFloat n) = true := by
  rw [attributeValueMatches_numeric numeric, normalizeNumericString_toString]
  intro same
  have letter : 'e' ∈ (normalizeNumericString (sprintFloat n)).toList :=
    mem_normalizeNumericString (sprintFloat_of_long n long) (by decide) (by decide)
  rw [← same] at letter
  exact absurd (isNumeral_toString m 'e' letter) (by decide)

/-- A counter that is shown as a number is recognised as itself, and as no other number, up to six digits only. -/
theorem shown_number_matches_iff {key : String} (numeric : key ∈ numericAttrKeys) {n : Nat} {resp : MqscResponse}
    (shows_n : ShowsNumber resp key n) :
    ∃ attrs, resp.firstObjectAttributes = .ok attrs ∧
      ((attributeValueMatches key (toString n) (attrs.get key) = true ∧
        ∀ m : Int, m ≠ n → attributeValueMatches key (toString m) (attrs.get key) = false) ↔ n < 1000000) := by
  obtain ⟨attrs, decoded, stored⟩ := shows_n.attributes
  refine ⟨attrs, decoded, ?_⟩
  rw [stored]
  constructor
  · rintro ⟨own, -⟩
    by_contra long
    exact not_matches_long numeric (Nat.le_of_not_lt long) n own
  · intro short
    refine ⟨(matches_short numeric short n).mpr rfl, fun m other => ?_⟩
    rw [Bool.eq_false_iff]
    exact fun same => other ((matches_short numeric short m).mp same)

end Numbers

section Cases

attribute [local instance] asciiTables

def shownLength (n : Nat) : MqscResponse where
  commandResponse := [⟨0, [], [], AList.singleton "maxmsgl" (.number n)⟩]
  overallCompletionCode := 0
  error := []

theorem shownLength_shows (n : Nat) : ShowsNumber (shownLength n) "maxmsgl" n where
  shown := by
    have lower : toLower "maxmsgl" = "maxmsgl" := by decide
    exact ⟨⟨"maxmsgl", .number n⟩, List.mem_singleton.mpr rfl, lower⟩
  number := by
    intro entry member _
    cases List.mem_singleton.mp member
    rfl

theorem short_length_matches : ∃ attrs, (shownLength 65536).firstObjectAttributes = .ok attrs ∧
    attributeValueMatches "maxmsgl" "65536" (attrs.get "maxmsgl") = true := by
  have numeric : "maxmsgl" ∈ numericAttrKeys := by decide
  obtain ⟨attrs, decoded, exact_match⟩ := shown_number_matches_iff numeric (shownLength_shows 65536)
  exact ⟨attrs, decoded, (exact_match.mpr (by decide)).1⟩

/-- The default message length of a channel reads back as `4.194304e+06`, so the channel drifts for ever. -/
theorem default_length_drifts : ∃ attrs, (shownLength 4194304).firstObjectAttributes = .ok attrs ∧
    attributeValueMatches "maxmsgl" "4194304" (attrs.get "maxmsgl") = false ∧
    attributeDriftsForKeys (toMQChannelSpec ordersChannel).attributes attrs channelSvrconnDisplayParameters =
      [⟨"maxmsgl", "4194304", "4.194304e+06"⟩] := by
  refine ⟨_, rfl, ?_, ?_⟩
  · decide
  · decide

end Cases

end MKurator.Convergence
