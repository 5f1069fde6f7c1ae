import ExchangeTap.Proofs.Url.Splitting

namespace ExchangeTap.Url

def schemeMark : List Char := [':', '/', '/']

/-- The parts of a URI with a password. The scheme ends at the first mark, the user at the first colon behind
it, and the password at the last at sign. -/
structure NamesPassword (uri scheme user password host : String) : Prop where
  spelled : uri = scheme ++ "://" ++ user ++ ":" ++ password ++ "@" ++ host
  schemed : ¬schemeMark <:+: scheme.toList
  named : ':' ∉ user.toList
  hosted : '@' ∉ host.toList

variable {text scheme user password host : List Char}

theorem redactChars_append (schemed : ¬schemeMark <:+: scheme) (named : ':' ∉ user)
    (hosted : '@' ∉ host) :
    redactChars (scheme ++ ':' :: '/' :: '/' :: (user ++ ':' :: (password ++ '@' :: host))) =
      scheme ++ ':' :: '/' :: '/' :: (user ++ ':' :: '*' :: '*' :: '*' :: '@' :: host) := by
  have slashes : splitFirst ':' ['/', '/']
      (scheme ++ ':' :: '/' :: '/' :: (user ++ ':' :: (password ++ '@' :: host))) =
        some (scheme, user ++ ':' :: (password ++ '@' :: host)) :=
    splitFirst_append ['/', '/'] (by decide) schemed
  have atSign : splitLast '@' (user ++ ':' :: (password ++ '@' :: host)) =
      some (user ++ ':' :: password, host) := splitLast_eq_some_iff.mpr ⟨by simp, hosted⟩
  have colon : splitFirst ':' [] (user ++ ':' :: password) = some (user, password) :=
    splitFirst_eq_some_iff.mpr ⟨rfl, named⟩
  simp [redactChars, slashes, atSign, colon]

private theorem redactChars_cases (text : List Char) :
    redactChars text = text ∨ ∃ scheme user password host,
      text = scheme ++ ':' :: '/' :: '/' :: (user ++ ':' :: (password ++ '@' :: host)) ∧
        ¬schemeMark <:+: scheme ∧ ':' ∉ user ∧ '@' ∉ host := by
  cases slashes : splitFirst ':' ['/', '/'] text with
  | none => simp [redactChars, slashes]
  | some parts =>
      obtain ⟨scheme, rest⟩ := parts
      cases atSign : splitLast '@' rest with
      | none => simp [redactChars, slashes, atSign]
      | some parts =>
          obtain ⟨userinfo, host⟩ := parts
          cases colon : splitFirst ':' [] userinfo with
          | none => simp [redactChars, slashes, atSign, colon]
          | some parts =>
              obtain ⟨user, password⟩ := parts
              obtain ⟨rfl, named⟩ := splitFirst_eq_some_iff.mp colon
              obtain ⟨rfl, hosted⟩ := splitLast_eq_some_iff.mp atSign
              refine .inr ⟨scheme, user, password, host, ?_, absent_of_splitFirst slashes, named, hosted⟩
              rw [eq_of_splitFirst slashes]
              simp

theorem NamesPassword.redact {uri scheme user password host : String}
    (names : NamesPassword uri scheme user password host) :
    redact uri = scheme ++ "://" ++ user ++ ":***@" ++ host := by
  apply String.toList_injective
  obtain ⟨rfl, schemed, named, hosted⟩ := names
  have masked : redactChars (scheme.toList ++ ':' :: '/' :: '/' ::
      (user.toList ++ ':' :: (password.toList ++ '@' :: host.toList))) = _ :=
    redactChars_append schemed named hosted
  simpa [Url.redact] using masked

private theorem redact_or_namesPassword (uri : String) :
    redact uri = uri ∨ ∃ scheme user password host, NamesPassword uri scheme user password host := by
  rcases redactChars_cases uri.toList with same | ⟨scheme, user, password, host, spelled, absent⟩
  · exact .inl (by rw [redact, same, String.ofList_toList])
  · refine .inr ⟨String.ofList scheme, String.ofList user, String.ofList password, String.ofList host, ?_,
      ?_, ?_, ?_⟩
    · apply String.toList_injective
      simpa using spelled
    · simpa using absent.1
    · simpa using absent.2.1
    · simpa using absent.2.2

/-- No part of the password is left, not even its length, and what was hidden stays as it is. -/
theorem password_hidden :
    (∀ uri scheme user password host, NamesPassword uri scheme user password host →
      redact uri = scheme ++ "://" ++ user ++ ":***@" ++ host) ∧
    (∀ uri uri' scheme user password password' host, NamesPassword uri scheme user password host →
      NamesPassword uri' scheme user password' host → redact uri = redact uri') ∧
    (∀ uri, (¬∃ scheme user password host, NamesPassword uri scheme user password host) →
      redact uri = uri) ∧
    ∀ uri, redact (redact uri) = redact uri := by
  refine ⟨fun uri scheme user password host names => names.redact, ?_, ?_, ?_⟩
  · intro uri uri' scheme user password password' host names names'
    rw [names.redact, names'.redact]
  · intro uri nameless
    exact (redact_or_namesPassword uri).resolve_right nameless
  · intro uri
    rcases redact_or_namesPassword uri with same | ⟨scheme, user, password, host, names⟩
    · rw [same, same]
    · have masked : NamesPassword (scheme ++ "://" ++ user ++ ":***@" ++ host) scheme user "***" host :=
        ⟨by apply String.toList_injective; simp, names.schemed, names.named, names.hosted⟩
      rw [names.redact, masked.redact]

/-- The password has all the marks in it, and the scheme and the user have some. -/
theorem password_hidden_of_marks :
    let uri := "a:/b://c@d:e@f:g://h/@i:1/j"
    let other := "a:/b://c@d:@i:1/j"
    let bare := "a://i:1/j"
    NamesPassword uri "a:/b" "c@d" "e@f:g://h/" "i:1/j" ∧ NamesPassword other "a:/b" "c@d" "" "i:1/j" ∧
      (¬∃ scheme user password host, NamesPassword bare scheme user password host) ∧
      redact uri = "a:/b://c@d:***@i:1/j" ∧ redact uri = redact other ∧ redact bare = bare := by
  intro uri other bare
  have names : NamesPassword uri "a:/b" "c@d" "e@f:g://h/" "i:1/j" :=
    ⟨by decide +kernel, by decide +kernel, by decide +kernel, by decide +kernel⟩
  have otherNames : NamesPassword other "a:/b" "c@d" "" "i:1/j" :=
    ⟨by decide +kernel, by decide +kernel, by decide +kernel, by decide +kernel⟩
  have nameless : ¬∃ scheme user password host, NamesPassword bare scheme user password host := by
    rintro ⟨scheme, user, password, host, names⟩
    have atSign : '@' ∈ bare.toList := by simp [names.spelled]
    exact absurd atSign (by decide +kernel)
  obtain ⟨hidden, alike, unchanged, -⟩ := password_hidden
  exact ⟨names, otherNames, nameless, hidden _ _ _ _ _ names, alike _ _ _ _ _ _ _ names otherNames,
    unchanged _ nameless⟩

end ExchangeTap.Url
