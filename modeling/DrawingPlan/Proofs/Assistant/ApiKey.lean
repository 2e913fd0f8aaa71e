import DrawingPlan.Assistant.Settings
import DrawingPlan.Proofs.Json.Document
import DrawingPlan.Proofs.Text.Utf8

set_option autoImplicit false

namespace DrawingPlan.ApiKey

open Json (Writes)

def Spells (bytes : List Nat) (text : Text) : Prop :=
  ∃ characters, bytes = Text.utf8 characters ∧
    text = String.ofList (Text.unifyLineBreaks characters)

inductive Configured : Option (List Nat) → Text → Prop
  | file {bytes : List Nat} {text key : Text} {root entries : List (Text × Json)}
      (spelled : Spells bytes text) (written : Writes text (.object root))
      (found : (Json.object root).field? "Perplexity" = some (.object entries))
      (given : (Json.object entries).field? "ApiKey" = some (.text key))
      (solid : key.isBlank = false) : Configured (some bytes) key

structure FromEnvironment (environment : Option Text) (result : Except Failure Text) : Prop where
  given : ∀ value, environment = some value → value.isBlank = false → result = .ok value.trim
  missing : (∀ value, environment = some value → value.isBlank = true) →
    result = .error .notConfigured

theorem exists_of_field {json value : Json} {name : Text} (given : json.field name = value)
    (written : value ≠ .null) :
    ∃ fields, json = .object fields ∧ (Json.object fields).field? name = some value := by
  cases json with
  | object fields =>
    cases found : (Json.object fields).field? name with
    | none => exact absurd (by simpa [Json.field, found] using given.symm) written
    | some held => exact ⟨fields, rfl, by simpa [Json.field, found] using given⟩
  | _ => exact absurd given.symm written

theorem inSettings_eq_some_iff {root : Json} {kept : Text} :
    inSettings root = some kept ↔ ∃ fields entries key, root = .object fields ∧
      (Json.object fields).field? "Perplexity" = some (.object entries) ∧
      (Json.object entries).field? "ApiKey" = some (.text key) ∧ key.isBlank = false ∧
        key.trim = kept := by
  constructor
  · intro given
    unfold inSettings at given
    split at given
    · next key found =>
      obtain ⟨entries, inside, named⟩ := exists_of_field found (by simp)
      obtain ⟨fields, rfl, held⟩ := exists_of_field inside (by simp)
      have solid : key.isBlank = false ∧ key.trim = kept := by
        simpa [nonblank?] using given
      exact ⟨fields, entries, key, rfl, held, named, solid⟩
    · cases given
  · rintro ⟨fields, entries, key, rfl, held, given, solid, rfl⟩
    simp [inSettings, Json.field, held, given, nonblank?, solid]

section Spelling

variable {bytes : List Nat}

theorem ofFile_of_spells {text : Text} (spelled : Spells bytes text) :
    ∃ read, Text.ofFile bytes = .ok read ∧ text = read := by
  obtain ⟨characters, written, same⟩ := spelled
  exact ⟨_, Text.ofFile_eq_ok_iff.mpr ⟨characters, written, rfl⟩, same⟩

theorem spells_of_ofFile {read : String} (decoded : Text.ofFile bytes = .ok read) :
    Spells bytes read := by
  obtain ⟨characters, written, rfl⟩ := Text.ofFile_eq_ok_iff.mp decoded
  exact ⟨characters, written, rfl⟩

end Spelling

section Brackets

open Json

variable (count : Nat)

theorem opened_brackets :
    Opened (List.replicate count (.list [])) (List.replicate count .openList) := by
  induction count with
  | zero => exact .outside
  | succ count ih =>
    rw [List.replicate_succ, List.replicate_succ']
    exact ih.list []

theorem tokens_brackets (position : Nat) :
    (tokensFrom 0 position (List.replicate count (.char '['))).map Located.token =
      List.replicate count .openList := by
  induction count generalizing position with
  | zero => rfl
  | succ count ih =>
    rw [List.replicate_succ, List.replicate_succ, ← ih (position + 1)]
    rfl

theorem spells_brackets :
    Spells (List.replicate count 0x5B) ⟨List.replicate count (.char '[')⟩ := by
  refine ⟨List.replicate count '[', ?_, ?_⟩
  · induction count with
    | zero => rfl
    | succ count ih =>
      rw [List.replicate_succ, ih]
      rfl
  · have kept : Text.unifyLineBreaks (List.replicate count '[') = List.replicate count '[' := by
      induction count with
      | zero => rfl
      | succ count ih => simp [List.replicate_succ, Text.unifyLineBreaks, ih]
    simp [Text.ofString, kept]

end Brackets

section Nested

variable [Json.Nesting]

inductive Overnested : Option (List Nat) → Prop
  | file {bytes : List Nat} {text : Text} (spelled : Spells bytes text)
      (deep : Json.Overnested text) : Overnested (some bytes)

structure Expected (file : Option (List Nat)) (environment : Option Text)
    (result : Except Failure Text) : Prop where
  configured : ∀ key, Configured file key → result = .ok key.trim
  elsewhere : (∀ key, ¬Configured file key) →
    result = resolve none environment ∧ FromEnvironment environment result

section File

variable {bytes : List Nat} {environment : Option Text} {key kept : Text}

theorem tooDeep_of_inFile {failure : Failure} (failed : inFile bytes = .error failure) :
    (∃ container, failure = .tooDeep container) ∧ Overnested (some bytes) := by
  cases decoded : Text.ofFile bytes with
  | error fault => simp [inFile, decoded] at failed
  | ok text =>
    cases read : Json.read text with
    | ok root => simp [inFile, decoded, read] at failed
    | error fault =>
      cases fault with
      | tooDeep container =>
        have same : Failure.tooDeep container = failure := by
          simpa [inFile, decoded, read] using failed
        exact ⟨⟨container, same.symm⟩, .file (spells_of_ofFile decoded)
          (Json.read_tooDeep_iff.mp ⟨container, read⟩)⟩
      | _ => simp [inFile, decoded, read] at failed

theorem inFile_of_overnested (deep : Overnested (some bytes)) :
    ∃ container, inFile bytes = .error (.tooDeep container) := by
  obtain ⟨spelled, deep⟩ := deep
  obtain ⟨read, decoded, rfl⟩ := ofFile_of_spells spelled
  obtain ⟨container, failed⟩ := Json.read_tooDeep_iff.mpr deep
  exact ⟨container, by simp [inFile, decoded, failed]⟩

theorem configured_of_inFile (found : inFile bytes = .ok (some kept)) :
    ∃ key, Configured (some bytes) key ∧ key.trim = kept := by
  cases decoded : Text.ofFile bytes with
  | error fault => simp [inFile, decoded] at found
  | ok text =>
    cases read : Json.read text with
    | ok root =>
      have given : inSettings root = some kept := by simpa [inFile, decoded, read] using found
      obtain ⟨fields, entries, key, rfl, held, named, solid, same⟩ :=
        inSettings_eq_some_iff.mp given
      exact ⟨key, .file (spells_of_ofFile decoded) (Json.read_eq_ok_iff.mp read).1 held named solid,
        same⟩
    | error fault => cases fault <;> simp [inFile, decoded, read] at found

theorem inFile_of_configured (configured : Configured (some bytes) key)
    (shallow : ¬Overnested (some bytes)) : inFile bytes = .ok (some key.trim) := by
  cases configured with
  | file spelled written found given solid =>
    obtain ⟨text, decoded, rfl⟩ := ofFile_of_spells spelled
    have read : Json.read text = .ok _ :=
      Json.read_eq_ok_iff.mpr ⟨written, fun deep => shallow (.file spelled deep)⟩
    simp only [inFile, decoded, read]
    exact congrArg Except.ok (inSettings_eq_some_iff.mpr ⟨_, _, _, rfl, found, given, solid, rfl⟩)

theorem resolve_of_error {failure : Failure} (failed : inFile bytes = .error failure)
    (environment : Option Text) : resolve (some bytes) environment = .error failure := by
  simp only [resolve, failed]
  rfl

theorem resolve_of_key (held : inFile bytes = .ok (some kept)) (environment : Option Text) :
    resolve (some bytes) environment = .ok kept := by
  simp only [resolve, held]
  rfl

theorem resolve_of_none (empty : inFile bytes = .ok none) (environment : Option Text) :
    resolve (some bytes) environment = resolve none environment := by
  simp only [resolve, empty]

end File

theorem fromEnvironment_resolve (environment : Option Text) :
    FromEnvironment environment (resolve none environment) where
  given value same solid := by
    subst same
    simp [resolve, nonblank?, solid]
  missing blank := by
    cases environment with
    | none => rfl
    | some value =>
      have unused : (some value).bind nonblank? = none := by simp [nonblank?, blank value rfl]
      rw [resolve, unused]
      rfl

theorem expected_of_shallow {file : Option (List Nat)} (shallow : ¬Overnested file)
    (environment : Option Text) : Expected file environment (resolve file environment) := by
  have outside := fromEnvironment_resolve environment
  cases file with
  | none => exact ⟨fun key configured => (nomatch configured), fun _ => ⟨rfl, outside⟩⟩
  | some bytes =>
    refine ⟨fun key configured => resolve_of_key (inFile_of_configured configured shallow) _,
      fun unconfigured => ?_⟩
    cases found : inFile bytes with
    | error failure => exact absurd (tooDeep_of_inFile found).2 shallow
    | ok held =>
      cases held with
      | none => exact ⟨resolve_of_none found _, resolve_of_none found _ ▸ outside⟩
      | some kept =>
        obtain ⟨key, configured, -⟩ := configured_of_inFile found
        exact absurd configured (unconfigured key)

theorem not_expected_tooDeep {file : Option (List Nat)} {environment : Option Text}
    {container : Json.Container} : ¬Expected file environment (.error (.tooDeep container)) := by
  intro expected
  by_cases configured : ∃ key, Configured file key
  · obtain ⟨key, configured⟩ := configured
    cases expected.configured key configured
  · obtain ⟨-, given, missing⟩ := expected.elsewhere fun key found => configured ⟨key, found⟩
    by_cases solid : ∃ value, environment = some value ∧ value.isBlank = false
    · obtain ⟨value, same, solid⟩ := solid
      cases given value same solid
    · cases missing fun value same => by
        rw [← Bool.not_eq_false]
        exact fun blank => solid ⟨value, same, blank⟩

theorem resolve_tooDeep_iff {file : Option (List Nat)} {environment : Option Text} :
    (∃ container, resolve file environment = .error (.tooDeep container)) ↔ Overnested file := by
  constructor
  · rintro ⟨container, failed⟩
    by_contra shallow
    exact not_expected_tooDeep (failed ▸ expected_of_shallow shallow environment)
  · intro deep
    cases deep with
    | file spelled deep =>
      obtain ⟨container, failed⟩ := inFile_of_overnested (.file spelled deep)
      exact ⟨container, resolve_of_error failed environment⟩

/--
The key is that of the settings file, or the environment decides as it does without a file, exactly
when the file is not nested too deep; and otherwise this is the one failure that comes through.
-/
theorem resolve_expected_iff (file : Option (List Nat)) (environment : Option Text) :
    (Expected file environment (resolve file environment) ↔ ¬Overnested file) ∧
      ((∃ container, resolve file environment = .error (.tooDeep container)) ↔
        Overnested file) := by
  refine ⟨⟨fun expected deep => ?_, fun shallow => expected_of_shallow shallow environment⟩,
    resolve_tooDeep_iff⟩
  obtain ⟨container, failed⟩ := resolve_tooDeep_iff.mpr deep
  exact not_expected_tooDeep (failed ▸ expected)

open Json in
theorem overnested_brackets {count : Nat} (deep : deepest < count) :
    Json.Overnested ⟨List.replicate count (.char '[')⟩ := by
  obtain ⟨more, rfl⟩ := Nat.exists_eq_add_of_lt deep
  refine ⟨by simp [List.replicate_succ], List.replicate deepest .openList, .openList,
    List.replicate more .openList, List.replicate deepest (.list []), ?_, rfl,
    opened_brackets deepest, by simp⟩
  rw [tokens, tokens_brackets, Nat.add_assoc, Nat.add_comm more 1, List.replicate_add,
    List.replicate_add]
  rfl

end Nested

theorem resolve_fails_on_brackets :
    let file := some (List.replicate 3000 0x5B)
    resolve none (some "env-key") = .ok "env-key" ∧
      (∃ container, resolve file (some "env-key") = .error (.tooDeep container)) ∧
      ¬Expected file (some "env-key") (resolve file (some "env-key")) := by
  intro file
  have failed : ∃ container, resolve file (some "env-key") = .error (.tooDeep container) :=
    resolve_tooDeep_iff.mpr (.file (spells_brackets 3000) (overnested_brackets (by decide)))
  obtain ⟨container, same⟩ := failed
  exact ⟨rfl, ⟨container, same⟩, same ▸ not_expected_tooDeep⟩

end DrawingPlan.ApiKey
