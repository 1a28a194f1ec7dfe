import LineSieve.Proofs.Run.Entries

/- When a run calls a file unchanged. It compares the bytes that it would write with those that it
   has read, and what reading takes away, a byte order mark and carriage returns, could hide what
   sieving takes away. It does not, since both only shorten: a file that comes out as it was has
   lost nothing on the way. -/
namespace LineSieve

open Encoding

section Utf8

variable {library : Library} {bytes : ByteArray} {chars : List Char} {decoded : Decoded}

theorem encode_of_decode? (understood : Text.decode? bytes = some chars) :
    bytes = Text.encode chars := by
  obtain ⟨text, found, rfl⟩ := Option.map_eq_some_iff.mp understood
  unfold String.fromUTF8? at found
  split at found
  · cases found
    change bytes = (String.ofList (String.fromUTF8 bytes _).toList).toByteArray
    rw [String.ofList_toList]
    rfl
  · cases found

theorem utf8_decode_ok_iff {text : List Char} : Charset.utf8.decode bytes = .ok text ↔
    ∃ chars, Text.decode? bytes = some chars ∧ dropMark chars = text := by
  rw [Charset.decode]
  cases Text.decode? bytes <;> simp

theorem ofName_utf8 {name : String} {charset : Charset}
    (known : ofName library name = .ok ("utf-8", charset)) : charset = .utf8 := by
  dsimp only [ofName] at known
  split at known
  · exact (Prod.mk.inj (Except.ok.inj known)).2.symm
  · rename_i other
    split at known
    · -- A key from the library is not the name of UTF-8, which was looked for first.
      have same := (Prod.mk.inj (Except.ok.inj known)).1
      rw [same] at other
      exact absurd rfl other
    · cases known
    · cases known

theorem resolve_cons_iff {name : String} {names : List String}
    {candidates : List (String × Charset)} :
    Decoder.resolve library (name :: names) = .ok candidates ↔ ∃ candidate rest,
      ofName library name = .ok candidate ∧ Decoder.resolve library names = .ok rest ∧
        candidates = candidate :: rest := by
  constructor
  · intro resolved
    unfold Decoder.resolve at resolved
    split at resolved
    · cases resolved
    · cases resolved
    · rename_i candidate rest known later
      exact ⟨candidate, rest, known, later, (Except.ok.inj resolved).symm⟩
  · rintro ⟨candidate, rest, known, later, rfl⟩
    unfold Decoder.resolve
    rw [known, later]

theorem resolve_utf8 {names : List String} {candidates : List (String × Charset)}
    (resolved : Decoder.resolve library names = .ok candidates) {charset : Charset}
    (listed : ("utf-8", charset) ∈ candidates) : charset = .utf8 := by
  induction names generalizing candidates with
  | nil =>
    cases resolved
    cases listed
  | cons name names ih =>
    obtain ⟨candidate, rest, known, later, rfl⟩ := resolve_cons_iff.mp resolved
    rcases List.mem_cons.mp listed with rfl | listed
    · exact ofName_utf8 known
    · exact ih later listed

theorem firstAccepting_ok {last : Undecodable} {candidates : List (String × Charset)}
    (accepted : Decoder.firstAccepting bytes last candidates = .ok decoded) :
    ∃ charset, (decoded.encoding, charset) ∈ candidates ∧
      charset.decode bytes = .ok decoded.text := by
  induction candidates generalizing last with
  | nil => cases accepted
  | cons candidate candidates ih =>
    obtain ⟨name, charset⟩ := candidate
    rw [Decoder.firstAccepting] at accepted
    split at accepted
    · rename_i text read
      cases accepted
      exact ⟨charset, List.mem_cons_self, read⟩
    · obtain ⟨other, listed, read⟩ := ih accepted
      exact ⟨other, List.mem_cons_of_mem _ listed, read⟩

/-- What is decoded as UTF-8 is a text in UTF-8, less one byte order mark at its start. -/
theorem decode_utf8 {names : List String} {decoder : Decoder}
    (resolved : Decoder.ofNames names library = .ok decoder)
    (understood : decoder.decode bytes = .ok decoded) (utf8 : decoded.encoding = "utf-8") :
    ∃ chars, bytes = Text.encode chars ∧ decoded.text = dropMark chars := by
  unfold Decoder.ofNames at resolved
  cases known : Decoder.resolve library
      (if names.isEmpty then Decoder.defaultNames else names) with
  | error e =>
    rw [known] at resolved
    cases resolved
  | ok candidates =>
    rw [known] at resolved
    cases resolved
    obtain ⟨charset, listed, read⟩ := firstAccepting_ok understood
    rw [utf8] at listed
    obtain rfl := resolve_utf8 known listed
    obtain ⟨chars, valid, marked⟩ := utf8_decode_ok_iff.mp read
    exact ⟨chars, encode_of_decode? valid, marked.symm⟩

end Utf8

/-- The content of a file is the lines of its text, rendered, and sieving changes none of them. -/
def Rules.Keeps {α : Type} [DecidableEq α] [Text.Alphabet α] (rules : Rules α)
    (content : ByteArray) (text : List Char) : Prop :=
  let lines : List (List α) := Text.splitLines (Text.ofChars text)
  content = Text.encode (Text.renderLines lines) ∧
    (sieve (rules.classify lines)).changed lines = false

def AnyRules.Keeps : AnyRules → ByteArray → List Char → Prop
  | .ofText rules => rules.Keeps
  | .ofBytes rules => rules.Keeps

theorem toByteArray_inj {s t : List UInt8} (same : Text.encode s = Text.encode t) : s = t := by
  have listed (bytes : List UInt8) : (Text.encode bytes).data.toList = bytes :=
    List.toList_data_toByteArray
  rw [← listed s, ← listed t, same]

theorem Rules.keeps_iff {α : Type} [DecidableEq α] [Text.Alphabet α] [Text.LawfulAlphabet α]
    (rules : Rules α) (text : List Char) (whole : List α) (final : Text.ofChars text <:+ whole)
    (injective : ∀ {s t : List α}, Text.encode s = Text.encode t → s = t) :
    (rules.pass text).content = Text.encode whole ↔ rules.Keeps (Text.encode whole) text := by
  have same {s t : List α} : Text.encode s = Text.encode t ↔ s = t :=
    ⟨injective, congrArg Text.encode⟩
  rw [Keeps, Sieved.changed, bne_eq_false_iff_eq, same]
  exact same.trans (render_eq_iff rules final)

/-- Sieving gives a text that was read as UTF-8 the bytes that it was read from only if nothing was
taken from it, by reading or by sieving. -/
theorem AnyRules.keeps_iff (rules : AnyRules) (chars : List Char) :
    (rules.pass (dropMark chars)).content = Text.encode chars ↔
      rules.Keeps (Text.encode chars) (dropMark chars) := by
  have final := dropMark_suffix chars
  cases rules with
  | ofText rules => exact rules.keeps_iff _ chars final Text.encode_inj
  | ofBytes rules =>
    obtain ⟨front, split⟩ := final
    have behind : Text.utf8 (dropMark chars) <:+ Text.utf8 chars :=
      ⟨Text.utf8 front, by rw [Text.utf8, Text.utf8, ← List.flatMap_append, split]; rfl⟩
    exact rules.keeps_iff _ (Text.utf8 chars) behind toByteArray_inj

theorem AnyRules.Keeps.lines_eq {rules : AnyRules} {content : ByteArray} {text : List Char}
    (keeps : rules.Keeps content text) :
    (rules.pass text).linesBefore = (rules.pass text).linesAfter := by
  cases rules with
  | ofText rules | ofBytes rules =>
    have kept := keeps.2
    rw [Sieved.changed, bne_eq_false_iff_eq] at kept
    exact congrArg List.length kept.symm

namespace Service

variable {service : Service} {runId : String} {mode : Mode} {tree : FileTree} {target : Target}
  {bytes : ByteArray} {decoded : Decoded}

theorem process_sieved (sieves : mode ≠ .analyze)
    (loaded : service.load tree target = .ok (bytes, decoded))
    (free : ¬ service.Barred mode target bytes decoded) :
    ∃ file written, (service.process runId mode tree target).entry = .summary file ∧
      file.sieved = some (service.stats bytes decoded written) := by
  rw [process_free loaded free]
  cases mode with
  | analyze => exact absurd rfl sieves
  | strip => exact ⟨_, _, rfl, rfl⟩
  | dryRun => exact ⟨_, _, rfl, rfl⟩

theorem process_reported (sieves : mode ≠ .analyze)
    (loaded : service.load tree target = .ok (bytes, decoded)) {file : FileSummary}
    {stats : SieveStats} (found : (service.process runId mode tree target).entry = .summary file)
    (sieved : file.sieved = some stats) : ∃ written, stats = service.stats bytes decoded written := by
  have free : ¬ service.Barred mode target bytes decoded := by
    intro barred
    obtain ⟨failure, failed, -⟩ : ∃ failure,
        (service.process runId mode tree target).entry = .failure failure ∧
          failure.path = target.display ∧ failure.kind = .write := process_barred loaded barred
    cases failed.symm.trans found
  obtain ⟨other, written, entry, sieved'⟩ : ∃ file written,
      (service.process runId mode tree target).entry = .summary file ∧
        file.sieved = some (service.stats bytes decoded written) :=
    process_sieved sieves loaded free
  cases entry.symm.trans found
  exact ⟨written, Option.some.inj (sieved.symm.trans sieved')⟩

theorem stats_unchanged_iff (written : Bool) :
    (service.stats bytes decoded written).changed = false ↔ service.output decoded = bytes := by
  rw [stats, Bool.eq_false_iff, ne_eq, bytes_bne_iff, not_not]

theorem process_unchanged_iff (sieves : mode ≠ .analyze)
    (loaded : service.load tree target = .ok (bytes, decoded)) :
    (∃ file stats, (service.process runId mode tree target).entry = .summary file ∧
        file.sieved = some stats ∧ stats.changed = false) ↔ service.output decoded = bytes := by
  constructor
  · rintro ⟨file, stats, found, sieved, unchanged⟩
    obtain ⟨written, rfl⟩ := process_reported sieves loaded found sieved
    exact (stats_unchanged_iff written).mp unchanged
  · intro same
    have free : ¬ service.Barred mode target bytes decoded := fun barred => barred.differs same
    obtain ⟨file, written, entry, sieved⟩ : ∃ file written,
        (service.process runId mode tree target).entry = .summary file ∧
          file.sieved = some (service.stats bytes decoded written) :=
      process_sieved sieves loaded free
    exact ⟨file, _, entry, sieved, (stats_unchanged_iff written).mpr same⟩

end Service

/-- Calling a file unchanged is honest. Take a file that can be read and that a decoder of any named
encodings reads as UTF-8, any rules and a mode that sieves. The file is reported as unchanged exactly
if it holds its own lines as they are rendered and sieving changes none of them, and then there are
as many lines as before. A file that may be written is always reported. -/
theorem changed_honest (library : Library) (names : List String) (service : Service)
    (resolved : Decoder.ofNames names library = .ok service.decoder) (runId : String) (mode : Mode)
    (sieves : mode ≠ .analyze) (tree : FileTree) (target : Target) (bytes : ByteArray)
    (decoded : Decoded) (read : tree.readFile target.path = .ok bytes)
    (free : service.withholds target.path = none)
    (understood : service.decoder.decode bytes = .ok decoded)
    (utf8 : decoded.encoding = "utf-8") :
    let entry := (service.process runId mode tree target).entry
    (∃ chars, bytes = Text.encode chars ∧ decoded.text = dropMark chars) ∧
    ((∃ file stats, entry = .summary file ∧ file.sieved = some stats ∧ stats.changed = false) ↔
      service.rules.Keeps bytes decoded.text) ∧
    (∀ file stats, entry = .summary file → file.sieved = some stats → stats.changed = false →
      stats.linesBefore = stats.linesAfter) ∧
    (mode = .dryRun ∨ service.refuses target.path = none →
      ∃ file stats, entry = .summary file ∧ file.sieved = some stats) := by
  intro entry
  have loaded : service.load tree target = .ok (bytes, decoded) :=
    Service.load_ok_iff.mpr ⟨read, free, understood⟩
  obtain ⟨chars, rfl, marked⟩ := decode_utf8 resolved understood utf8
  have unchanged : (∃ file stats, entry = .summary file ∧ file.sieved = some stats ∧
      stats.changed = false) ↔ service.rules.Keeps (Text.encode chars) decoded.text := by
    refine (Service.process_unchanged_iff sieves loaded).trans ?_
    rw [Service.output, marked]
    exact service.rules.keeps_iff chars
  refine ⟨⟨chars, rfl, marked⟩, unchanged, ?_, ?_⟩
  · intro file stats found sieved same
    have keeps := unchanged.mp ⟨file, stats, found, sieved, same⟩
    obtain ⟨written, rfl⟩ := Service.process_reported sieves loaded found sieved
    exact congrArg Int.ofNat keeps.lines_eq
  · intro accepts
    have unbarred : ¬ service.Barred mode target (Text.encode chars) decoded := by
      intro barred
      rcases accepts with dry | accepted
      · cases barred.strip.symm.trans dry
      · exact barred.refused accepted
    obtain ⟨file, written, found, sieved⟩ : ∃ file written, entry = .summary file ∧
        file.sieved = some (service.stats (Text.encode chars) decoded written) :=
      Service.process_sieved sieves loaded unbarred
    exact ⟨file, _, found, sieved⟩

theorem changed_honest_script :
    let service : Service := { rules := Rules.lua }
    let bytes := Text.encode "x = 1\n".toList
    Decoder.ofNames [] .standard = .ok service.decoder ∧ Mode.dryRun ≠ .analyze ∧
      (FileTree.script bytes).readFile Target.script.path = .ok bytes ∧
      service.withholds Target.script.path = none ∧
      service.decoder.decode bytes = .ok ⟨"x = 1\n".toList, "utf-8"⟩ ∧
      ∃ file stats,
        (service.process "1" .dryRun (.script bytes) .script).entry = .summary file ∧
          file.sieved = some stats ∧ stats.changed = false ∧
          stats.linesBefore = stats.linesAfter := by
  intro service bytes
  have resolved : Decoder.ofNames [] .standard = .ok service.decoder := rfl
  have read := FileTree.readFile_script bytes
  have understood : service.decoder.decode bytes = .ok ⟨"x = 1\n".toList, "utf-8"⟩ :=
    default_decode_encode "x = 1\n".toList
  obtain ⟨-, unchanged, counts, -⟩ := changed_honest .standard [] service resolved "1" .dryRun
    (by decide) (.script bytes) .script bytes _ read rfl understood rfl
  have kept : service.rules.Keeps bytes "x = 1\n".toList :=
    ⟨congrArg Text.encode (by decide +kernel), by decide +kernel⟩
  obtain ⟨file, stats, found, sieved, same⟩ := unchanged.mpr kept
  exact ⟨resolved, by decide, read, rfl, understood, file, stats, found, sieved, same,
    counts file stats found sieved same⟩

end LineSieve
