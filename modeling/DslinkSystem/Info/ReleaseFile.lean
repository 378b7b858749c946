import DslinkSystem.Info.Release

/-!
# The name and the description in `/etc/lsb-release`

A file has a line for the name, one for the release and one for the description of the system,
each perhaps, and other lines anywhere. The name and the description stand bare or in
double quotes.

`get_OS_info` keeps the quotes of a name, and takes a description from behind its first quote
to the last character of its line. It compares lines with keys that lack their `=`. So it gives
the name and the description exactly when the one is bare and the other in quotes, as far as these
are the last lines with such a key, and no release is read beyond its line
(`os_info_read_back_iff`).
-/

set_option autoImplicit false

namespace DslinkSystem

open TextScan

namespace Linux

/-! ## Files -/

/-- A text as it is written: bare, or in double quotes. -/
def written (quoted : Bool) (value : Text) : Text :=
  if quoted then '"' :: (value ++ ['"']) else value

/-- The key of a line, with its `=`. -/
def keyed (key : Text) : Text := key ++ ['=']

/-- A line of the file. -/
inductive ReleaseLine where
  | name (quoted : Bool)
  | release (value : Text)
  | description (quoted : Bool)
  | other (line : Text) (notName : startsWith (keyed distribId) line = false)
      (notRelease : startsWith (keyed distribRelease) line = false)
      (notDescription : startsWith (keyed distribDescription) line = false)

namespace ReleaseLine

def isName : ReleaseLine → Bool
  | .name _ => true
  | _ => false

def isDescription : ReleaseLine → Bool
  | .description _ => true
  | _ => false

end ReleaseLine

/-- A file for a name and a description. -/
structure ReleaseFile where
  name : Text
  description : Text
  plainName : '"' ∉ name ∧ '\n' ∉ name
  plainDescription : '"' ∉ description ∧ '\n' ∉ description
  lines : List ReleaseLine

namespace ReleaseFile

variable (file : ReleaseFile)

/-- A line as it is written. -/
def line : ReleaseLine → Text
  | .name quoted => keyed distribId ++ written quoted file.name
  | .release value => keyed distribRelease ++ value
  | .description quoted => keyed distribDescription ++ written quoted file.description
  | .other line _ _ _ => line

def text : List Text := file.lines.map file.line

/-- The name and the description to be read: nothing for a missing line. -/
def givenName : Text :=
  if file.lines.any ReleaseLine.isName then file.name else []

def givenDescription : Text :=
  if file.lines.any ReleaseLine.isDescription then file.description else []

end ReleaseFile

/-! ## What the loop takes from the lines -/

/-- What is taken from a line for the description. -/
def descriptionOf (line : Text) : Text := (afterFirst '"' line).dropLast

/-- The numbers of a release leave the texts as they are. -/
theorem parseRelease_texts {info after : OSInfo} {line : Text} {marker : ℕ}
    (read : parseRelease info line marker = some after) :
    after.name = info.name ∧ after.fullName = info.fullName := by
  simp only [parseRelease, Option.bind_eq_bind, Option.bind_eq_some_iff, Option.pure_def,
    Option.some.injEq] at read
  obtain ⟨_, _, _, _, _, _, _, _, rfl⟩ := read
  exact ⟨rfl, rfl⟩

/-- The text up to the last character of a line, whether or not its length wraps. -/
theorem take_sizeSub {line : Text} {start : ℕ} (within : start ≤ line.length)
    (there : line ≠ []) :
    (line.drop start).take (sizeSub (line.length - 1) start) = (line.drop start).dropLast := by
  have positive := List.length_pos_of_ne_nil there
  rcases Nat.lt_or_eq_of_le within with before | atEnd
  · rw [List.dropLast_eq_take, List.length_drop, sizeSub, if_pos (by omega)]
    congr 1
    omega
  · rw [atEnd, List.drop_length, List.take_nil, List.dropLast_nil]

/-- The turn of the loop on a line with the key of the name. -/
theorem scanReleaseLine_name (info : OSInfo) {line : Text}
    (isId : startsWith distribId line = true) :
    scanReleaseLine info line = some { info with name := afterFirst '=' line } := by
  have whole : (afterFirst '=' line).take line.length = afterFirst '=' line := by
    apply List.take_of_length_le
    rw [← drop_next_findFirstOf, List.length_drop]
    omega
  rw [scanReleaseLine, if_pos isId, substr_of_le (next_findFirstOf_le ['='] line),
    drop_next_findFirstOf, whole]
  rfl

/-- The turn of the loop on a line with the key of the description. -/
theorem scanReleaseLine_description (info : OSInfo) {line : Text}
    (isDescription : startsWith distribDescription line = true) :
    scanReleaseLine info line = some { info with fullName := descriptionOf line } := by
  have notId : startsWith distribId line = false := startsWith_eq_false isDescription (by decide)
  have notRelease : startsWith distribRelease line = false :=
    startsWith_eq_false isDescription (by decide)
  have there : line ≠ [] := by
    rintro rfl
    cases isDescription
  have within := next_findFirstOf_le ['"'] line
  have taken : substr line (next (findFirstOf ['"'] line))
      (sizeSub (line.length - 1) (next (findFirstOf ['"'] line))) = some (descriptionOf line) := by
    rw [substr_of_le within, take_sizeSub within there, drop_next_findFirstOf, descriptionOf]
  simp [scanReleaseLine, notId, notRelease, isDescription, taken]

/-- The turn of the loop on a line with neither key leaves the texts as they are. -/
theorem scanReleaseLine_texts {info after : OSInfo} {line : Text}
    (notId : startsWith distribId line = false)
    (notDescription : startsWith distribDescription line = false)
    (turn : scanReleaseLine info line = some after) :
    after.name = info.name ∧ after.fullName = info.fullName := by
  cases isRelease : startsWith distribRelease line with
  | true =>
      rw [scanReleaseLine, notId, isRelease] at turn
      exact parseRelease_texts turn
  | false =>
      rw [scanReleaseLine, notId, isRelease, notDescription] at turn
      obtain rfl := Option.some.inj turn
      exact ⟨rfl, rfl⟩

/-- One turn of the loop. -/
theorem scanReleaseLine_of_readable (info : OSInfo) {line : Text}
    (readable : releaseReadable line = true) :
    ∃ after, scanReleaseLine info line = some after ∧
      after.name = (if startsWith distribId line then afterFirst '=' line else info.name) ∧
      after.fullName =
        if startsWith distribDescription line then descriptionOf line else info.fullName := by
  obtain ⟨after, turn⟩ : ∃ after, scanReleaseLine info line = some after := by
    refine Option.ne_none_iff_exists'.mp fun fails => ?_
    rw [scanReleaseLine_eq_none_iff.mp fails] at readable
    cases readable
  refine ⟨after, turn, ?_⟩
  cases isId : startsWith distribId line with
  | true =>
      have notDescription : startsWith distribDescription line = false :=
        startsWith_eq_false isId (by decide)
      rw [scanReleaseLine_name info isId] at turn
      obtain rfl := Option.some.inj turn
      simp [notDescription]
  | false =>
      cases isDescription : startsWith distribDescription line with
      | true =>
          rw [scanReleaseLine_description info isDescription] at turn
          obtain rfl := Option.some.inj turn
          simp
      | false => simpa using scanReleaseLine_texts isId isDescription turn

/-- What the last line that is kept gives, for one more line in front of the others. -/
theorem getLast?_filter_cons (keep : Text → Bool) (take : Text → Text) (line : Text)
    (lines : List Text) (missing : Text) :
    (((line :: lines).filter keep).getLast?.map take).getD missing =
      ((lines.filter keep).getLast?.map take).getD (if keep line then take line else missing) := by
  rw [List.filter_cons]
  cases keep line with
  | true =>
      rw [if_pos rfl, List.getLast?_cons, if_pos rfl]
      cases (lines.filter keep).getLast? with
      | none => rfl
      | some last => rfl
  | false => rfl

/-- **What the loop takes**: the name and the description that the last line with such a key
gives. -/
theorem foldlM_scanReleaseLine {lines : List Text}
    (readable : ∀ line ∈ lines, releaseReadable line = true) (info : OSInfo) :
    ∃ after, lines.foldlM scanReleaseLine info = some after ∧
      after.name =
        ((lines.filter (startsWith distribId)).getLast?.map (afterFirst '=')).getD info.name ∧
      after.fullName =
        ((lines.filter (startsWith distribDescription)).getLast?.map descriptionOf).getD
          info.fullName := by
  induction lines generalizing info with
  | nil => exact ⟨info, rfl, rfl, rfl⟩
  | cons line lines ih =>
      obtain ⟨next, turn, name, fullName⟩ :=
        scanReleaseLine_of_readable info (readable line List.mem_cons_self)
      obtain ⟨after, later, name', fullName'⟩ :=
        ih (fun other member => readable other (List.mem_cons_of_mem _ member)) next
      refine ⟨after, ?_, ?_, ?_⟩
      · rw [List.foldlM_cons, turn]
        exact later
      · rw [name', name, getLast?_filter_cons]
      · rw [fullName', fullName, getLast?_filter_cons]

/-! ## When a file is read back -/

/-- The first quote of a line is its last character. -/
def EndsAtFirstQuote (line : Text) : Prop := ∃ before, '"' ∉ before ∧ line = before ++ ['"']

/-- The length of a description wraps exactly when nothing follows the first quote. -/
theorem start_le_iff {line : Text} (there : line ≠ []) :
    next (findFirstOf ['"'] line) ≤ line.length - 1 ↔ ¬ EndsAtFirstQuote line := by
  by_cases quote : '"' ∈ line
  · obtain ⟨before, after, rfl, absent⟩ := List.eq_append_cons_of_mem quote
    have none_before : ∀ c ∈ before, c ∉ ['"'] := by
      intro c member same
      exact absent (List.mem_singleton.mp same ▸ member)
    rw [findFirstOf_append none_before List.mem_cons_self, next, List.length_append,
      List.length_cons]
    constructor
    · rintro longer ⟨before', absent', same⟩
      have last : after = [] := by
        have equal := congrArg (afterFirst '"') same
        rwa [afterFirst_append absent, afterFirst_append absent'] at equal
      rw [last, List.length_nil] at longer
      omega
    · intro follows
      cases after with
      | nil => exact absurd ⟨before, absent, rfl⟩ follows
      | cons c after =>
          rw [List.length_cons]
          omega
  · have nowhere : findFirstOf ['"'] line = none := by
      rw [findFirstOf_eq_none_iff]
      intro c member same
      exact quote (List.mem_singleton.mp same ▸ member)
    rw [nowhere]
    refine iff_of_true (Nat.zero_le _) ?_
    rintro ⟨before, -, rfl⟩
    simp at quote

namespace ReleaseFile

variable (file : ReleaseFile)

/-- The file is read back: the name and the description are those of the file, without quotes,
and no length wraps. -/
structure ReadBack : Prop where
  texts : ∃ info, getOSInfo (some file.text) = some info ∧ info.name = file.givenName ∧
    info.fullName = file.givenDescription
  noWrap : ∀ line ∈ file.text, startsWith distribDescription line = true →
    next (findFirstOf ['"'] line) ≤ line.length - 1

/-- A line with the key of the name gives the name: it is the line of the name and bare, or
another whose text after its first `=` happens to be what is to be read. -/
def GivesName : ReleaseLine → Prop
  | .name quoted => quoted = false
  | .other line _ _ _ => afterFirst '=' line = file.givenName
  | _ => True

/-- A line with the key of the description gives the description: it is the line of the
description and in quotes, or another from which what is to be read happens to be taken. -/
def GivesDescription : ReleaseLine → Prop
  | .description quoted => quoted = true
  | .other line _ _ _ => descriptionOf line = file.givenDescription
  | _ => True

/-- The last line that begins with a key, `=` or not. -/
def lastWith (key : Text) : Option ReleaseLine :=
  (file.lines.filter fun line => startsWith key (file.line line)).getLast?

/-- The condition under which a file is read back. -/
structure Readable : Prop where
  releases : ∀ line ∈ file.text, releaseReadable line = true
  name : ∀ line, file.lastWith distribId = some line → file.GivesName line
  description : ∀ line, file.lastWith distribDescription = some line → file.GivesDescription line
  noQuoteAtEnd : ∀ line notName notRelease notDescription,
    .other line notName notRelease notDescription ∈ file.lines →
      startsWith distribDescription line = true → ¬ EndsAtFirstQuote line

/-! ## The lines of the keys -/

theorem startsWith_name (quoted : Bool) :
    startsWith distribId (file.line (.name quoted)) = true := by
  rw [line, keyed, List.append_assoc]
  exact startsWith_append _ _

theorem startsWith_release (value : Text) :
    startsWith distribRelease (file.line (.release value)) = true := by
  rw [line, keyed, List.append_assoc]
  exact startsWith_append _ _

theorem startsWith_description (quoted : Bool) :
    startsWith distribDescription (file.line (.description quoted)) = true := by
  rw [line, keyed, List.append_assoc]
  exact startsWith_append _ _

/-- The lines that begin with the key of the name: its own, and other lines. -/
theorem name_or_other {l : ReleaseLine} (begins : startsWith distribId (file.line l) = true) :
    (∃ quoted, l = .name quoted) ∨ ∃ line notName notRelease notDescription,
      l = .other line notName notRelease notDescription := by
  cases l with
  | name quoted => exact .inl ⟨quoted, rfl⟩
  | release value =>
      rw [startsWith_eq_false (file.startsWith_release value) (by decide)] at begins
      cases begins
  | description quoted =>
      rw [startsWith_eq_false (file.startsWith_description quoted) (by decide)] at begins
      cases begins
  | other line _ _ _ => exact .inr ⟨line, _, _, _, rfl⟩

/-- Likewise for the key of the description. -/
theorem description_or_other {l : ReleaseLine}
    (begins : startsWith distribDescription (file.line l) = true) :
    (∃ quoted, l = .description quoted) ∨ ∃ line notName notRelease notDescription,
      l = .other line notName notRelease notDescription := by
  cases l with
  | name quoted =>
      rw [startsWith_eq_false (file.startsWith_name quoted) (by decide)] at begins
      cases begins
  | release value =>
      rw [startsWith_eq_false (file.startsWith_release value) (by decide)] at begins
      cases begins
  | description quoted => exact .inl ⟨quoted, rfl⟩
  | other line _ _ _ => exact .inr ⟨line, _, _, _, rfl⟩

/-- A bare text is not the quoted one. -/
theorem written_eq_iff (quoted : Bool) (value : Text) :
    written quoted value = value ↔ quoted = false := by
  cases quoted with
  | false => simp [written]
  | true =>
      refine iff_of_false (fun same => ?_) (by simp)
      have length := congrArg List.length same
      simp only [written, if_true, List.length_cons, List.length_append] at length
      omega

theorem afterFirst_name (quoted : Bool) :
    afterFirst '=' (file.line (.name quoted)) = written quoted file.name := by
  rw [line, keyed, List.append_assoc]
  exact afterFirst_append (by decide) _

/-- A line with the key of the name gives the name exactly when it is such a line. -/
theorem afterFirst_eq_givenName_iff {l : ReleaseLine} (member : l ∈ file.lines)
    (begins : startsWith distribId (file.line l) = true) :
    afterFirst '=' (file.line l) = file.givenName ↔ file.GivesName l := by
  obtain ⟨quoted, rfl⟩ | ⟨line, _, _, _, rfl⟩ := file.name_or_other begins
  · have given : file.givenName = file.name :=
      if_pos (List.any_eq_true.mpr ⟨_, member, rfl⟩)
    rw [file.afterFirst_name, given]
    exact written_eq_iff quoted file.name
  · exact Iff.rfl

theorem quote_not_mem_keyed : '"' ∉ keyed distribDescription := by decide

/-- What follows the first quote of a description in quotes. -/
theorem afterFirst_quoted :
    afterFirst '"' (file.line (.description true)) = file.description ++ ['"'] :=
  afterFirst_append quote_not_mem_keyed _

/-- A bare description has no quote in its line. -/
theorem quote_not_mem_bare : '"' ∉ file.line (.description false) := by
  intro member
  rcases List.mem_append.mp member with inKey | inText
  · exact quote_not_mem_keyed inKey
  · exact file.plainDescription.1 inText

theorem descriptionOf_description (quoted : Bool) :
    descriptionOf (file.line (.description quoted)) = file.description ↔ quoted = true := by
  cases quoted with
  | true => simp [descriptionOf, file.afterFirst_quoted]
  | false =>
      refine iff_of_false (fun same => ?_) (by simp)
      have length := congrArg List.length same
      have keyLength : (keyed distribDescription).length = 20 := by decide
      rw [descriptionOf, afterFirst_of_not_mem file.quote_not_mem_bare, List.length_dropLast, line,
        written, List.length_append, keyLength] at length
      simp only [Bool.false_eq_true, if_false] at length
      omega

theorem descriptionOf_eq_givenDescription_iff {l : ReleaseLine} (member : l ∈ file.lines)
    (begins : startsWith distribDescription (file.line l) = true) :
    descriptionOf (file.line l) = file.givenDescription ↔ file.GivesDescription l := by
  obtain ⟨quoted, rfl⟩ | ⟨line, _, _, _, rfl⟩ := file.description_or_other begins
  · have given : file.givenDescription = file.description :=
      if_pos (List.any_eq_true.mpr ⟨_, member, rfl⟩)
    rw [given]
    exact file.descriptionOf_description quoted
  · exact Iff.rfl

/-- What the last line with a key gives is what is to be read. -/
theorem last_eq_iff {key given : Text} {take : Text → Text} {gives : ReleaseLine → Prop}
    (each : ∀ l ∈ file.lines, startsWith key (file.line l) = true →
      (take (file.line l) = given ↔ gives l))
    (missing : (∀ l ∈ file.lines, startsWith key (file.line l) = false) → given = []) :
    ((file.text.filter (startsWith key)).getLast?.map take).getD [] = given ↔
      ∀ l, file.lastWith key = some l → gives l := by
  have texts : (file.text.filter (startsWith key)).getLast? =
      (file.lastWith key).map file.line := by
    rw [text, List.filter_map, List.getLast?_map, lastWith]
    rfl
  rw [texts]
  cases last : file.lastWith key with
  | none =>
      have absent : ∀ l ∈ file.lines, startsWith key (file.line l) = false := by
        have nothing := List.filter_eq_nil_iff.mp (List.getLast?_eq_none_iff.mp last)
        exact fun l member => Bool.eq_false_iff.mpr (nothing l member)
      rw [missing absent]
      simp
  | some l =>
      obtain ⟨member, begins⟩ := List.mem_filter.mp (List.mem_of_getLast? last)
      simpa using each l member begins

/-- The line of the description does not end at its first quote. -/
theorem not_endsAtFirstQuote_description (quoted : Bool) :
    ¬ EndsAtFirstQuote (file.line (.description quoted)) := by
  rintro ⟨before, absent, same⟩
  have nothing : afterFirst '"' (file.line (.description quoted)) = [] := by
    rw [same]
    exact afterFirst_append absent []
  cases quoted with
  | true =>
      rw [file.afterFirst_quoted] at nothing
      exact List.append_ne_nil_of_right_ne_nil _ (List.cons_ne_nil _ _) nothing
  | false =>
      apply file.quote_not_mem_bare
      simp [same]

/-- No length wraps exactly when no other line ends at its first quote. -/
theorem noWrap_iff :
    (∀ line ∈ file.text, startsWith distribDescription line = true →
        next (findFirstOf ['"'] line) ≤ line.length - 1) ↔
      ∀ line notName notRelease notDescription,
        .other line notName notRelease notDescription ∈ file.lines →
          startsWith distribDescription line = true → ¬ EndsAtFirstQuote line := by
  have there : ∀ line, startsWith distribDescription line = true → line ≠ [] := by
    rintro line begins rfl
    cases begins
  constructor
  · intro noWrap line notName notRelease notDescription member begins
    exact (start_le_iff (there line begins)).mp
      (noWrap line (List.mem_map_of_mem member) begins)
  · intro others line member begins
    refine (start_le_iff (there line begins)).mpr ?_
    obtain ⟨l, member', rfl⟩ := List.mem_map.mp member
    obtain ⟨quoted, rfl⟩ | ⟨line, _, _, _, rfl⟩ := file.description_or_other begins
    · exact file.not_endsAtFirstQuote_description quoted
    · exact others _ _ _ _ member' begins

/-- Without a line for the name there is no name to be read. -/
theorem givenName_of_absent
    (absent : ∀ l ∈ file.lines, startsWith distribId (file.line l) = false) :
    file.givenName = [] := by
  refine if_neg fun someName => ?_
  obtain ⟨l, member, isName⟩ := List.any_eq_true.mp someName
  cases l with
  | name quoted =>
      have missing := absent _ member
      rw [file.startsWith_name quoted] at missing
      cases missing
  | release _ | description _ | other _ _ _ _ => cases isName

theorem givenDescription_of_absent
    (absent : ∀ l ∈ file.lines, startsWith distribDescription (file.line l) = false) :
    file.givenDescription = [] := by
  refine if_neg fun someDescription => ?_
  obtain ⟨l, member, isDescription⟩ := List.any_eq_true.mp someDescription
  cases l with
  | description quoted =>
      have missing := absent _ member
      rw [file.startsWith_description quoted] at missing
      cases missing
  | name _ | release _ | other _ _ _ _ => cases isDescription

/-- What the loop gives for the name and the description of a file that is read to its end. -/
theorem texts_iff (releases : ∀ line ∈ file.text, releaseReadable line = true) :
    (∃ info, getOSInfo (some file.text) = some info ∧ info.name = file.givenName ∧
        info.fullName = file.givenDescription) ↔
      (∀ l, file.lastWith distribId = some l → file.GivesName l) ∧
        ∀ l, file.lastWith distribDescription = some l → file.GivesDescription l := by
  obtain ⟨info, read, name, fullName⟩ := foldlM_scanReleaseLine releases {}
  have ofName :=
    file.last_eq_iff (fun l => file.afterFirst_eq_givenName_iff) file.givenName_of_absent
  have ofDescription :=
    file.last_eq_iff (fun l => file.descriptionOf_eq_givenDescription_iff)
      file.givenDescription_of_absent
  rw [← ofName, ← ofDescription, ← name, ← fullName]
  constructor
  · rintro ⟨info', read', same⟩
    obtain rfl := Option.some.inj (read.symm.trans read')
    exact same
  · intro same
    exact ⟨info, read, same⟩

end ReleaseFile

/-- **When the name and the description are read back**: exactly when no release is read beyond
its line, the last line with the key of the name gives it bare, that of the description in
quotes, and no other line with the key of the description ends at its first quote. -/
theorem os_info_read_back_iff (file : ReleaseFile) : file.ReadBack ↔ file.Readable := by
  constructor
  · intro readBack
    have releases : ∀ line ∈ file.text, releaseReadable line = true := by
      intro line member
      by_contra fails
      obtain ⟨info, read, -⟩ := readBack.texts
      have none_read : getOSInfo (some file.text) = none :=
        (foldlM_scanReleaseLine_eq_none_iff {} file.text).mpr
          ⟨line, member, Bool.not_eq_true _ ▸ fails⟩
      rw [none_read] at read
      cases read
    obtain ⟨name, description⟩ := (file.texts_iff releases).mp readBack.texts
    exact ⟨releases, name, description, file.noWrap_iff.mp readBack.noWrap⟩
  · intro readable
    exact ⟨(file.texts_iff readable.releases).mpr ⟨readable.name, readable.description⟩,
      file.noWrap_iff.mpr readable.noQuoteAtEnd⟩

/-- A file with a quoted name, and nothing else. -/
def quotedName : ReleaseFile where
  name := "Ubuntu".toList
  description := []
  plainName := by decide
  plainDescription := by decide
  lines := [.name true]

/-- The quotes of a name stay. -/
theorem os_info_keeps_quotes : ¬ ∀ file : ReleaseFile, file.ReadBack := by
  intro every
  obtain ⟨info, read, name, -⟩ := (every quotedName).texts
  have given : quotedName.givenName = "Ubuntu".toList := by decide
  have kept : (getOSInfo (some quotedName.text)).map (·.name) = some "\"Ubuntu\"".toList := by decide
  rw [read, Option.map_some, name, given] at kept
  exact absurd kept (by decide)

end Linux

end DslinkSystem
