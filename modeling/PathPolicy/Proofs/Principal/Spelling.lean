import PathPolicy.Document
import PathPolicy.Proofs.FirstFault
import PathPolicy.Proofs.Text.Trim

/-!
# Spelling of principals

A principal that was read from a token is spelled as the token was, without the blanks
around it, and that spelling is read as the same principal again.  So two such principals
are spelled alike only when they are the same.  Which principals are spelled so shows in
their names.
-/

namespace PathPolicy.Principal

/-- A principal is spelled out when its text stands for it. -/
def IsSpelledOut (principal : Principal) : Prop :=
  parse principal.text = .ok principal

/-! ## Tokens -/

variable {token name : List Char}

theorem readToken_star : readToken ['*'] = (.anyone, []) :=
  rfl

theorem readToken_marked (rest : List Char) : readToken ('@' :: rest) = (.group, rest) := by
  unfold readToken
  rw [if_neg (by simp)]
  exact if_pos rfl

theorem readToken_of_unmarked (noStar : token ≠ ['*']) (unmarked : token.head? ≠ some '@') :
    readToken token = (.user, token) := by
  unfold readToken
  rw [if_neg noStar]
  cases token with
  | nil => rfl
  | cons c rest =>
      have differs : c ≠ '@' := by
        rintro rfl
        exact unmarked rfl
      exact if_neg differs

/-- A star alone stands for anyone, an at sign marks a group, and any other token is the name of a
user. -/
theorem readToken_eq_iff {kind : Kind} :
    readToken token = (kind, name) ↔
      match kind with
      | .anyone => token = ['*'] ∧ name = []
      | .user => token = name ∧ token ≠ ['*'] ∧ token.head? ≠ some '@'
      | .group => token = '@' :: name := by
  by_cases star : token = ['*']
  · rw [star, readToken_star]
    cases kind <;> simp [eq_comm]
  · by_cases marked : token.head? = some '@'
    · rcases List.head?_eq_some_iff.1 marked with ⟨rest, rfl⟩
      rw [readToken_marked]
      cases kind <;> simp
    · rw [readToken_of_unmarked star marked]
      cases kind with
      | anyone => simp [star]
      | user => simp [star, marked]
      | group =>
          constructor
          · intro impossible
            cases impossible
          · rintro rfl
            exact absurd rfl marked

/-- A token is read as the principal of its kind and name. -/
theorem parse_eq_ok_iff {token : String} {principal : Principal} :
    parse token = .ok principal ↔
      readToken (Text.trim token.toList) = (principal.kind, principal.name.toList) := by
  rw [parse, ofKind_eq_ok_iff, Prod.ext_iff, eq_comm (a := principal.kind)]
  apply and_congr_right
  intro _
  constructor
  · intro same
    rw [same, String.toList_ofList]
  · intro same
    rw [same, String.ofList_toList]

/-- A principal is spelled as its token without the blanks around it. -/
theorem text_of_parse_eq_ok {token : String} {principal : Principal}
    (read : parse token = .ok principal) : principal.text = Text.trimmed token := by
  rw [parse_eq_ok_iff] at read
  rw [Text.trimmed]
  cases principal with
  | anyone =>
      rw [(readToken_eq_iff.1 read).1]
      rfl
  | user name =>
      rw [(readToken_eq_iff.1 read).1]
      exact String.ofList_toList.symm
  | group name =>
      rw [readToken_eq_iff.1 read]
      exact String.ext (by simp [text, Principal.name])

theorem parse_trimmed (token : String) : parse (Text.trimmed token) = parse token := by
  rw [parse, parse, Text.trim_toList_trimmed]

theorem isSpelledOut_of_parse_eq_ok {token : String} {principal : Principal}
    (read : parse token = .ok principal) : principal.IsSpelledOut := by
  rw [IsSpelledOut, text_of_parse_eq_ok read, parse_trimmed, read]

/-! ## Principals that are spelled out -/

theorem isSpelledOut_anyone : anyone.IsSpelledOut :=
  rfl

/-- A user is spelled out when the name has no blanks around it and is read as no other kind of
principal. -/
theorem isSpelledOut_user_iff {name : Name} :
    (user name).IsSpelledOut ↔
      Text.IsTrimmed name.val.toList ∧ name.val ≠ "*" ∧ name.val.toList.head? ≠ some '@' := by
  have star : name.val.toList ≠ ['*'] ↔ name.val ≠ "*" := by
    rw [Ne, Ne, ← String.toList_inj]
    rfl
  rw [IsSpelledOut, parse_eq_ok_iff]
  constructor
  · intro read
    rcases readToken_eq_iff.1 read with ⟨trimmed, noStar, unmarked⟩
    have isTrimmed : Text.trim name.val.toList = name.val.toList := trimmed
    rw [text, isTrimmed] at noStar unmarked
    exact ⟨isTrimmed, star.1 noStar, unmarked⟩
  · rintro ⟨trimmed, noStar, unmarked⟩
    rw [text, show Text.trim name.val.toList = name.val.toList from trimmed]
    exact readToken_eq_iff.2 ⟨rfl, star.2 noStar, unmarked⟩

/-- A group is spelled out when no blank stands at the end of its name. -/
theorem isSpelledOut_group_iff {name : Name} :
    (group name).IsSpelledOut ↔ Text.trimEnd name.val.toList = name.val.toList := by
  have spelled : Text.trim (group name).text.toList = '@' :: Text.trimEnd name.val.toList := by
    rw [text, String.toList_append]
    exact Text.trim_cons_of_visible rfl _
  rw [IsSpelledOut, parse_eq_ok_iff, spelled]
  constructor
  · intro read
    exact (List.cons.inj (readToken_eq_iff.1 read)).2
  · intro trimmed
    exact readToken_eq_iff.2 (congrArg ('@' :: ·) trimmed)

/-- Principals that are spelled out are told apart by their texts. -/
theorem IsSpelledOut.eq_of_text_eq {left right : Principal} (leftSpelled : left.IsSpelledOut)
    (rightSpelled : right.IsSpelledOut) (sameText : left.text = right.text) : left = right := by
  have same : Except.ok left = (Except.ok right : Except Fault Principal) := by
    rw [← leftSpelled, ← rightSpelled, sameText]
  cases same
  rfl

end PathPolicy.Principal

namespace PathPolicy.Entry

theorem isSpelledOut_of_parse_eq_ok {token permissions : String} {entry : Entry}
    (read : parse token permissions = .ok entry) : entry.principal.IsSpelledOut := by
  obtain ⟨principal, readPrincipal, rfl⟩ := map_eq_ok_iff.1 read
  exact Principal.isSpelledOut_of_parse_eq_ok readPrincipal

theorem parse_text_permissions {entry : Entry} (spelledOut : entry.principal.IsSpelledOut) :
    parse entry.principal.text entry.permissions = .ok entry := by
  rw [parse, spelledOut]
  simp [Except.map, ofPermissions, permissions]

end PathPolicy.Entry
