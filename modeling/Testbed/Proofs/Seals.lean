import Testbed.Proofs.SavedState

/-!
# A seal binds every field

What seals a document is the digest of its text without the seal, and the text of a document says
everything about it: it is read back as that document (`parse_text`). So two documents under one
seal are the same in every field, unless their texts are two contents with one digest
(`Digest.Collide`).

**Theorem (`seal_binds`).** A load gives a document only of this version and under its own seal. All
documents that are loaded under one seal are the same, and whatever else is put into the file under
that seal is refused. This is so for all documents whose texts do not collide.

No two contents are known whose digests are the same, but there have to be some, since digests are
short. The theorem therefore asks only of the two texts at hand that they do not collide.
-/

namespace Testbed

/-- Two contents that differ and have one digest. -/
def Digest.Collide (a b : ByteArray) : Prop := a ≠ b ∧ hex a = hex b

namespace StateDocument

variable {d d' : StateDocument} {path text : String}

/-- What the seal of a document is taken from. -/
def content (d : StateDocument) : ByteArray := { d with checksum := none }.text.toUTF8

/-- **The text of a document tells all its fields**: strings with whatever they hold, the names in
its maps, and which options are absent. -/
theorem text_injective (small : d.version < Nat.pow 2 32) (small' : d'.version < Nat.pow 2 32)
    (same : d.text = d'.text) : d = d' := by
  have read := parse_text small
  rw [same, parse_text small'] at read
  exact (Except.ok.inj read).symm

/-- Documents under one seal are the same, or they show how to make two contents of one digest. -/
theorem eq_of_digest (current : d.version = stateFormatVersion)
    (current' : d'.version = stateFormatVersion) (under : d.checksum = d'.checksum)
    (same : d.digest = d'.digest) (apart : ¬ Digest.Collide d.content d'.content) : d = d' := by
  have content : d.content = d'.content := by
    by_contra differ
    exact apart ⟨differ, same⟩
  have small {e : StateDocument} (current : e.version = stateFormatVersion) :
      ({ e with checksum := none } : StateDocument).version < Nat.pow 2 32 := by
    rw [show ({ e with checksum := none } : StateDocument).version = e.version from rfl, current]
    decide
  have bare := text_injective (small current) (small current') (String.toByteArray_inj.1 content)
  calc d = { ({ d with checksum := none } : StateDocument) with checksum := d.checksum } := rfl
    _ = { ({ d' with checksum := none } : StateDocument) with checksum := d'.checksum } := by
      rw [bare, under]
    _ = d' := rfl

/-! ## What is accepted -/

/-- A text is accepted if it is that of a document of this version under its own seal. -/
theorem accept_eq_ok :
    accept path text = .ok d ↔
      parse text = .ok d ∧ d.version = stateFormatVersion ∧ d.checksum = some d.digest := by
  unfold accept
  cases parse text with
  | error e => simp [Except.mapError, bind, Except.bind]
  | ok e =>
    simp only [Except.mapError, bind, Except.bind, Except.ok.injEq]
    by_cases current : e.version = stateFormatVersion
    · cases under : e.checksum with
      | none => simp [current]; grind
      | some sum => simp [current]; grind
    · simp [current]; grind

/-- What is read under a seal that is not its own is refused, if not already for its version. -/
theorem accept_of_foreign {sum : String} (read : parse text = .ok d) (under : d.checksum = some sum)
    (foreign : d.version = stateFormatVersion → d.digest ≠ sum) :
    accept path text = .error (if d.version = stateFormatVersion then .integrity path sum d.digest
      else .versionMismatch d.version) := by
  unfold accept
  simp only [read, Except.mapError, bind, Except.bind]
  by_cases current : d.version = stateFormatVersion
  · simp [current, under, foreign current]
  · simp [current]

end StateDocument

namespace FileStore

variable {s : FileStore} {t : FileTree} {d : StateDocument}

/-- Where a text can be read, loading is a matter of the text. -/
theorem load_of_readText {text : String} (read : t.readText s.path = .ok text) :
    s.load t = (StateDocument.accept s.path text).map some := by
  have there : t.exists? s.path = true := by
    obtain ⟨content, found, -⟩ := exists_of_bind read
    obtain ⟨p, found, -⟩ := exists_of_bind found
    rw [FileTree.exists?, found]
    rfl
  simp only [load, there, read, Except.mapError, bind, Except.bind, Bool.not_true,
    Bool.false_eq_true, if_false]
  cases StateDocument.accept s.path text <;> rfl

theorem load_eq_some :
    s.load t = .ok (some d) ↔
      ∃ text, t.readText s.path = .ok text ∧ StateDocument.accept s.path text = .ok d := by
  constructor
  · intro loaded
    cases read : t.readText s.path with
    | error e =>
      unfold load at loaded
      rw [read] at loaded
      split at loaded <;> cases loaded
    | ok text =>
      rw [load_of_readText read] at loaded
      cases accepted : StateDocument.accept s.path text with
      | error e =>
        rw [accepted] at loaded
        cases loaded
      | ok d' =>
        rw [accepted] at loaded
        cases loaded
        exact ⟨text, rfl, accepted⟩
  · rintro ⟨text, read, accepted⟩
    rw [load_of_readText read, accepted]
    rfl

/-- **A seal binds every field.** Of a document that a load gives, the version is the current one
and the seal is the digest of the document without it. Any document that is loaded under this seal,
from whatever file, is the same; and if the file of this store is replaced by a text of another
document under this seal, it is refused. All this holds as long as the two documents do not make the
digest collide. -/
theorem seal_binds (loaded : s.load t = .ok (some d)) :
    d.version = 1 ∧
    d.checksum = some (Digest.hex ({ d with checksum := none }.text.toUTF8)) ∧
    (∀ (s' : FileStore) (t' : FileTree) (d' : StateDocument), s'.load t' = .ok (some d') →
      d'.checksum = d.checksum → ¬ Digest.Collide d'.content d.content → d' = d) ∧
    (∀ (t' : FileTree) (text : String) (d' : StateDocument), t'.readText s.path = .ok text →
      StateDocument.parse text = .ok d' → d'.checksum = d.checksum → d' ≠ d →
      ¬ Digest.Collide d'.content d.content →
      s.load t' = .error (if d'.version = 1 then .integrity s.path d.digest d'.digest
        else .versionMismatch d'.version)) := by
  obtain ⟨text, -, accepted⟩ := load_eq_some.1 loaded
  obtain ⟨-, current, own⟩ := StateDocument.accept_eq_ok.1 accepted
  refine ⟨current, own, fun s' t' d' loaded' same apart => ?_,
    fun t' text' d' read parsed same other apart => ?_⟩
  · obtain ⟨text', -, accepted'⟩ := load_eq_some.1 loaded'
    obtain ⟨-, current', own'⟩ := StateDocument.accept_eq_ok.1 accepted'
    rw [own, own'] at same
    exact StateDocument.eq_of_digest current' current (own'.trans (same.trans own.symm))
      (Option.some.inj same) apart
  · have foreign : d'.version = stateFormatVersion → d'.digest ≠ d.digest := fun current' digest =>
      other (StateDocument.eq_of_digest current' current same digest apart)
    rw [load_of_readText read, StateDocument.accept_of_foreign parsed (same.trans own) foreign]
    rfl

/-- The store of `demo`. -/
def sampleStore : FileStore := ⟨⟨"state"⟩, "demo"⟩

/-- Where the store of `demo` keeps its document. -/
def samplePlace : Place := ["state", "demo", "state.json"]

/-- The files of `demo` when its document has this text. -/
def sampleFiles (text : String) : FileTree where
  entries :=
    [(["state"], .directory), (["state", "demo"], .directory),
     (samplePlace, .file text.toUTF8 FileTree.privateMode)]
  current := []

theorem readText_sampleFiles (text : String) :
    (sampleFiles text).readText sampleStore.path = .ok text := by
  have check : FileTree.checkPath sampleStore.path = .ok () := by decide +kernel
  have names : Path.segments sampleStore.path = samplePlace := by decide +kernel
  have start : (sampleFiles text).origin sampleStore.path = [] := ite_self _
  have found : (sampleFiles text).locate sampleStore.path = .ok samplePlace := by
    rw [FileTree.locate_eq check, names, start]
    rfl
  refine FileTree.readText_of_read ?_
  rw [FileTree.read, found]
  rfl

/-- A document under its seal is loaded; the same with a flag set is not. -/
theorem seal_binds_freshDocument :
    let d := (StateDocument.new "demo" "noon").sealed
    let tampered : StateDocument := { d with up := true }
    sampleStore.load (sampleFiles d.text) = .ok (some d) ∧
      sampleStore.load (sampleFiles tampered.text) =
        .error (.integrity sampleStore.path d.digest tampered.digest) := by
  intro d tampered
  have differ : tampered.digest ≠ d.digest := by decide +kernel
  have loaded : sampleStore.load (sampleFiles d.text) = .ok (some d) :=
    load_eq_some.2 ⟨d.text, readText_sampleFiles _, StateDocument.accept_sealed _ rfl⟩
  have other : tampered ≠ d := fun same => by
    have up : true = false := congrArg StateDocument.up same
    cases up
  have version : tampered.version = 1 := rfl
  have refused := (seal_binds loaded).2.2.2 _ _ tampered (readText_sampleFiles _)
    (StateDocument.parse_text (by rw [version]; decide)) rfl other fun collide => differ collide.2
  rw [if_pos version] at refused
  exact ⟨loaded, refused⟩

end FileStore

end Testbed
