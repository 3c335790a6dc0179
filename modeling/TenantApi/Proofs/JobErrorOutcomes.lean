import TenantApi.JobErrors
import TenantApi.Proofs.JsonText
import TenantApi.Proofs.SchemaReading
import TenantApi.Proofs.Utf8

/-!
What becomes of an answer of the job errors endpoint. The answer passes decoding, the marks in
front, the blank test, the grammar of structured text and a schema; each stage is told apart here
by what it accepts, not by how. A text in the grammar is never blank, so the blank test decides
nothing that the grammar would have read.
-/

namespace TenantApi.JobErrors

def unmarked (text : List Point) : List Point := text.dropWhile (· = .char byteOrderMark)

/-- The text of an answer that is there; bytes have one when they encode a text. -/
def BodyOf : Raw → List Point → Prop
  | .absent, _ => False
  | .text text, body => body = unmarked text.points
  | .bytes octets, body => ∃ text, octets = Utf8.encode text ∧ body = unmarked (text.map .char)

def Blank (body : List Point) : Prop := Text.isBlankText (body.map Point.shown) = true

/-- The points spell one value, with gaps around it; halves among them stay in its strings. -/
def Spells (body : List Point) (value : Json) : Prop :=
  Json.IsText (Json.halvesOf body) (body.map Point.shown) value

def Validated (items : List Json) (entries : List Datum) : Prop :=
  List.Forall₂ (fun item entry => Resource.jobImportErrorDetails.readJson item = .ok entry)
    items entries

def NoErrors (raw : Raw) : Prop :=
  raw = .absent ∨
    ∃ body, BodyOf raw body ∧ (Blank body ∨ Spells body (.array []))

def RecordErrors (raw : Raw) (entries : List Datum) : Prop :=
  ∃ body items, BodyOf raw body ∧ Spells body (.array items) ∧ items ≠ [] ∧
    Validated items entries

def WholeFailure (raw : Raw) (job : Datum) : Prop :=
  ∃ body members, BodyOf raw body ∧ Spells body (.object members) ∧
    Resource.job.readJson (.object members) = .ok job

inductive Cause where
  | decoding (fault : Decoding.Fault)
  | reading (error : Json.ReadError)
  | checking (issues : List Schema.Issue)

def Refusal.cause? : Refusal → Option Cause
  | .notUtf8 fault => some (.decoding fault)
  | .notJson error => some (.reading error)
  | .mismatch issues => some (.checking issues)
  | .wrongType _ => none

/-- The stage at which an answer is refused, by its report; the shape of a value has none. -/
inductive Fails (raw : Raw) : Option Cause → Prop where
  | undecodable {octets fault} (given : raw = .bytes octets)
      (stuck : Utf8.decode (Utf8.dropMark octets) = .error fault) :
      Fails raw (some (.decoding fault))
  | unreadable {body error} (given : BodyOf raw body) (visible : ¬Blank body)
      (stuck : Json.ofPoints body = .error error) : Fails raw (some (.reading error))
  | entry {body items issues} (given : BodyOf raw body) (read : Spells body (.array items))
      (full : items ≠ []) (stuck : entriesKind.read (Datum.ofJson (.array items)) = .error issues) :
      Fails raw (some (.checking issues))
  | job {body members issues} (given : BodyOf raw body) (read : Spells body (.object members))
      (stuck : Resource.job.readJson (.object members) = .error issues) :
      Fails raw (some (.checking issues))
  | shape {body value} (given : BodyOf raw body) (read : Spells body value)
      (array : ∀ items, value ≠ .array items) (object : ∀ members, value ≠ .object members) :
      Fails raw none

/-! ## Decoding -/

theorem unmarked_mark (text : List Point) :
    unmarked (.char byteOrderMark :: text) = unmarked text := by
  simp [unmarked]

theorem pieces_mark (rest : Octets) :
    Utf8.pieces (Utf8.byteOrderMark ++ rest) = .char byteOrderMark :: Utf8.pieces rest := by
  rw [show Utf8.byteOrderMark ++ rest = 0xef :: 0xbb :: 0xbf :: rest from rfl, Utf8.pieces_cons]
  rfl

-- Dropping one mark before decoding makes no difference, as all of them are dropped afterwards.
theorem body_bytes_iff {octets : Octets} {body : List Point} :
    BodyOf (.bytes octets) body ↔
      ∃ text, Utf8.decode (Utf8.dropMark octets) = .ok text ∧
        body = unmarked (text.map .char) := by
  simp only [BodyOf, Utf8.decode_iff]
  unfold Utf8.dropMark
  split
  · next rest =>
      constructor
      · rintro ⟨text, encoded, rfl⟩
        have pieces := Utf8.pieces_encode text
        rw [← encoded] at pieces
        have marked := (pieces_mark rest).symm.trans pieces
        obtain ⟨c, after, rfl, same, tail⟩ := List.map_eq_cons_iff.mp marked.symm
        cases same
        exact ⟨after, Utf8.bytes_of_pieces rest after tail.symm, unmarked_mark _⟩
      · rintro ⟨text, encoded, rfl⟩
        refine ⟨byteOrderMark :: text, ?_, (unmarked_mark _).symm⟩
        rw [encoded]
        rfl
  · rfl

/-! ## Text without halves -/

theorem spells_chars {text : List Char} {value : Json} :
    Spells (text.map .char) value ↔ Json.ofChars text = .ok value := by
  rw [← Json.ofPoints_chars, Json.ofPoints_iff, Spells]

-- Text that begins with another character than the mark is its own body.
theorem body_plain {text : String} (bare : text.toList.head? ≠ some byteOrderMark) :
    BodyOf (.text text) (text.toList.map .char) := by
  rw [BodyOf, LooseText.points, unmarked]
  cases characters : text.toList with
  | nil => rfl
  | cons first rest =>
      rw [List.map_cons, List.dropWhile_cons_of_neg]
      simpa [characters] using bare

/-! ## Checking -/

theorem validated_iff {items : List Json} {result : Datum} :
    entriesKind.read (Datum.ofJson (.array items)) = .ok result ↔
      ∃ entries, result = .list entries ∧ Validated items entries := by
  simp only [Datum.ofJson, entriesKind, Schema.list_read_iff, Schema.ofItems_eq_map,
    List.forall₂_map_left_iff]
  rfl

section Values
variable {value : Json} {result : Except Refusal (Option JobErrors)}

theorem ofJson_items {items : List Json} (full : items ≠ []) :
    ofJson (.array items) = result ↔
      (∃ entries, Validated items entries ∧ result = .ok (some (.importErrors entries))) ∨
        ∃ issues, entriesKind.read (Datum.ofJson (.array items)) = .error issues ∧
          result = .error (.mismatch issues) := by
  obtain ⟨first, rest, rfl⟩ := List.exists_cons_of_ne_nil full
  cases read : entriesKind.read (Datum.ofJson (.array (first :: rest))) with
  | ok found =>
      obtain ⟨entries, rfl, valid⟩ := validated_iff.mp read
      simp only [ofJson, read]
      constructor
      · rintro rfl
        exact Or.inl ⟨entries, valid, rfl⟩
      · rintro (⟨others, again, rfl⟩ | ⟨issues, impossible, _⟩)
        · have same := read.symm.trans (validated_iff.mpr ⟨others, rfl, again⟩)
          cases same
          rfl
        · simp at impossible
  | error issues =>
      simp only [ofJson, read]
      constructor
      · rintro rfl
        exact Or.inr ⟨issues, rfl, rfl⟩
      · rintro (⟨entries, valid, rfl⟩ | ⟨others, same, rfl⟩)
        · have accepted := validated_iff.mpr ⟨entries, rfl, valid⟩
          simp [read] at accepted
        · cases same
          rfl

theorem ofJson_members {members : Members} :
    ofJson (.object members) = result ↔
      (∃ job, Resource.job.readJson (.object members) = .ok job ∧
        result = .ok (some (.jobFailure job))) ∨
        ∃ issues, Resource.job.readJson (.object members) = .error issues ∧
          result = .error (.mismatch issues) := by
  simp only [ofJson]
  cases Resource.job.readJson (.object members) with
  | ok job => simp [eq_comm]
  | error issues => simp [eq_comm]

theorem ofJson_other (array : ∀ items, value ≠ .array items)
    (object : ∀ members, value ≠ .object members) :
    ofJson value = .error (.wrongType value.typeName) := by
  cases value with
  | array items => exact absurd rfl (array items)
  | object members => exact absurd rfl (object members)
  | null | bool | int | float | string => rfl

end Values

/-! ## Every answer -/

def ofBody (body : List Point) : Except Refusal (Option JobErrors) :=
  if Text.isBlankText (body.map Point.shown) then .ok none
  else match Json.ofPoints body with
    | .error error => .error (.notJson error)
    | .ok value => ofJson value

section Answers
variable {raw : Raw} {body : List Point}

theorem resolve_body (given : BodyOf raw body) : resolve raw = ofBody body := by
  cases raw with
  | absent => exact given.elim
  | text text =>
      cases given
      rfl
  | bytes octets =>
      obtain ⟨text, decoded, rfl⟩ := body_bytes_iff.mp given
      simp only [resolve, ofBytes, decoded]
      rfl

theorem ofBody_text {value : Json} (read : Spells body value) :
    ofBody body = ofJson value := by
  have visible : Text.isBlankText (body.map Point.shown) = false := Json.IsText.visible read
  simp [ofBody, visible, Json.ofPoints_iff.mpr read]

theorem resolve_text {value : Json} (given : BodyOf raw body) (read : Spells body value) :
    resolve raw = ofJson value :=
  (resolve_body given).trans (ofBody_text read)

theorem resolve_none (quiet : NoErrors raw) : resolve raw = .ok none := by
  rcases quiet with rfl | ⟨body, given, blank | read⟩
  · rfl
  · rw [Blank] at blank
    rw [resolve_body given, ofBody, if_pos blank]
  · exact resolve_text given read

theorem resolve_records {entries : List Datum} (rejected : RecordErrors raw entries) :
    resolve raw = .ok (some (.importErrors entries)) := by
  obtain ⟨body, items, given, read, full, valid⟩ := rejected
  rw [resolve_text given read, ofJson_items full]
  exact Or.inl ⟨entries, valid, rfl⟩

theorem resolve_failure {job : Datum} (failed : WholeFailure raw job) :
    resolve raw = .ok (some (.jobFailure job)) := by
  obtain ⟨body, members, given, read, valid⟩ := failed
  rw [resolve_text given read, ofJson_members]
  exact Or.inl ⟨job, valid, rfl⟩

theorem resolve_fails {cause : Option Cause} (fails : Fails raw cause) :
    ∃ refusal, resolve raw = .error refusal ∧ refusal.cause? = cause := by
  cases fails with
  | @undecodable octets fault given stuck =>
      refine ⟨.notUtf8 fault, ?_, rfl⟩
      simp only [given, resolve, ofBytes, stuck]
  | @unreadable body error given visible stuck =>
      refine ⟨.notJson error, ?_, rfl⟩
      rw [Blank] at visible
      rw [resolve_body given, ofBody, if_neg visible, stuck]
  | @entry body items issues given read full stuck =>
      refine ⟨.mismatch issues, ?_, rfl⟩
      rw [resolve_text given read, ofJson_items full]
      exact Or.inr ⟨issues, stuck, rfl⟩
  | @job body members issues given read stuck =>
      refine ⟨.mismatch issues, ?_, rfl⟩
      rw [resolve_text given read, ofJson_members]
      exact Or.inr ⟨issues, stuck, rfl⟩
  | @shape body value given read array object =>
      refine ⟨.wrongType value.typeName, ?_, rfl⟩
      rw [resolve_text given read, ofJson_other array object]

def Situated (raw : Raw) : Prop :=
  NoErrors raw ∨ (∃ entries, RecordErrors raw entries) ∨ (∃ job, WholeFailure raw job) ∨
    ∃ cause, Fails raw cause

theorem situated_value {value : Json} (given : BodyOf raw body) (read : Spells body value) :
    Situated raw := by
  cases value with
  | array items =>
      by_cases full : items = []
      · subst full
        exact Or.inl (Or.inr ⟨body, given, Or.inr read⟩)
      · cases checked : entriesKind.read (Datum.ofJson (.array items)) with
        | ok found =>
            obtain ⟨entries, rfl, valid⟩ := validated_iff.mp checked
            exact Or.inr (Or.inl ⟨entries, body, items, given, read, full, valid⟩)
        | error issues => exact Or.inr (Or.inr (Or.inr ⟨_, .entry given read full checked⟩))
  | object members =>
      cases checked : Resource.job.readJson (.object members) with
      | ok job => exact Or.inr (Or.inr (Or.inl ⟨job, body, members, given, read, checked⟩))
      | error issues => exact Or.inr (Or.inr (Or.inr ⟨_, .job given read checked⟩))
  | null | bool | int | float | string =>
      exact Or.inr (Or.inr (Or.inr ⟨none, .shape given read (by simp) (by simp)⟩))

theorem situated_body (given : BodyOf raw body) : Situated raw := by
  by_cases visible : Blank body
  · exact Or.inl (Or.inr ⟨body, given, Or.inl visible⟩)
  · cases read : Json.ofPoints body with
    | ok value => exact situated_value given (Json.ofPoints_iff.mp read)
    | error error => exact Or.inr (Or.inr (Or.inr ⟨_, .unreadable given visible read⟩))

theorem situated (raw : Raw) : Situated raw := by
  cases raw with
  | absent => exact Or.inl (Or.inl rfl)
  | text text =>
      have given : BodyOf (.text text) (unmarked text.points) := rfl
      exact situated_body given
  | bytes octets =>
      cases decoded : Utf8.decode (Utf8.dropMark octets) with
      | ok text => exact situated_body (body_bytes_iff.mpr ⟨text, decoded, rfl⟩)
      | error fault => exact Or.inr (Or.inr (Or.inr ⟨_, .undecodable rfl decoded⟩))

theorem resolve_situated (raw : Raw) :
    (resolve raw = .ok none ∧ NoErrors raw) ∨
    (∃ entries, resolve raw = .ok (some (.importErrors entries)) ∧ RecordErrors raw entries) ∨
    (∃ job, resolve raw = .ok (some (.jobFailure job)) ∧ WholeFailure raw job) ∨
    ∃ refusal, resolve raw = .error refusal ∧ Fails raw refusal.cause? := by
  rcases situated raw with quiet | ⟨entries, rejected⟩ | ⟨job, failed⟩ | ⟨cause, fails⟩
  · exact Or.inl ⟨resolve_none quiet, quiet⟩
  · exact Or.inr (Or.inl ⟨entries, resolve_records rejected, rejected⟩)
  · exact Or.inr (Or.inr (Or.inl ⟨job, resolve_failure failed, failed⟩))
  · obtain ⟨refusal, refused, rfl⟩ := resolve_fails fails
    exact Or.inr (Or.inr (Or.inr ⟨refusal, refused, fails⟩))

-- Exactly one of the four outcomes, and what decides between them. A refusal carries the report
-- of the stage that failed, and none when only the shape of the value was wrong.
theorem resolve_outcome (raw : Raw) :
    (resolve raw = .ok none ↔ NoErrors raw) ∧
    (∀ entries, resolve raw = .ok (some (.importErrors entries)) ↔ RecordErrors raw entries) ∧
    (∀ job, resolve raw = .ok (some (.jobFailure job)) ↔ WholeFailure raw job) ∧
    ((∃ refusal, resolve raw = .error refusal) ↔
      ¬ (NoErrors raw ∨ (∃ entries, RecordErrors raw entries) ∨ ∃ job, WholeFailure raw job)) ∧
    ∀ cause, (∃ refusal, resolve raw = .error refusal ∧ refusal.cause? = cause) ↔
      Fails raw cause := by
  have outcome := resolve_situated raw
  refine ⟨⟨?none, resolve_none⟩, fun entries => ⟨?records, resolve_records⟩,
    fun job => ⟨?failure, resolve_failure⟩, ⟨?refused, ?otherwise⟩,
    fun cause => ⟨?fails, resolve_fails⟩⟩
  case none =>
    intro resolved
    rcases outcome with ⟨_, quiet⟩ | ⟨_, same, _⟩ | ⟨_, same, _⟩ | ⟨_, same, _⟩
    · exact quiet
    all_goals cases same.symm.trans resolved
  case records =>
    intro resolved
    rcases outcome with ⟨same, _⟩ | ⟨_, same, rejected⟩ | ⟨_, same, _⟩ | ⟨_, same, _⟩
    all_goals cases same.symm.trans resolved
    exact rejected
  case failure =>
    intro resolved
    rcases outcome with ⟨same, _⟩ | ⟨_, same, _⟩ | ⟨_, same, failed⟩ | ⟨_, same, _⟩
    all_goals cases same.symm.trans resolved
    exact failed
  case refused =>
    rintro ⟨refusal, refused⟩ (quiet | ⟨entries, rejected⟩ | ⟨job, failed⟩)
    · cases refused.symm.trans (resolve_none quiet)
    · cases refused.symm.trans (resolve_records rejected)
    · cases refused.symm.trans (resolve_failure failed)
  case otherwise =>
    intro unlike
    rcases outcome with ⟨_, quiet⟩ | ⟨_, _, rejected⟩ | ⟨_, _, failed⟩ | ⟨refusal, refused, _⟩
    · exact absurd (Or.inl quiet) unlike
    · exact absurd (Or.inr (Or.inl ⟨_, rejected⟩)) unlike
    · exact absurd (Or.inr (Or.inr ⟨_, failed⟩)) unlike
    · exact ⟨refusal, refused⟩
  case fails =>
    rintro ⟨refusal, refused, rfl⟩
    rcases outcome with ⟨same, _⟩ | ⟨_, same, _⟩ | ⟨_, same, _⟩ | ⟨_, same, fails⟩
    all_goals cases same.symm.trans refused
    exact fails

end Answers

end TenantApi.JobErrors
