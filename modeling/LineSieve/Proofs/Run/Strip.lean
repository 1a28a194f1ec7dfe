import LineSieve.Run.Service
import LineSieve.Proofs.FileTree.ReadBack
import LineSieve.Proofs.Sieve.Reread

/- Stripping a file, and stripping it once more. A run that succeeds leaves the rendered output in
   the file; what a second run makes of it depends on whether the output can be read back. -/
namespace LineSieve

theorem bytes_bne_iff {a b : ByteArray} : (a != b) = true ↔ a ≠ b := by
  have same : (a == b) = true ↔ a = b := by
    cases a with
    | mk x =>
      cases b with
      | mk y =>
        change (x == y) = true ↔ _
        rw [beq_iff_eq, ByteArray.mk.injEq]
  rw [bne, Bool.not_eq_true', Bool.eq_false_iff, ne_eq, same]

/-- What sieving makes of the content of a file. -/
def Decoded.sieved {α : Type} [DecidableEq α] [Text.Alphabet α] (decoded : Decoded)
    (rules : Rules α) : Sieved α :=
  sieve (rules.classify (Text.splitLines (Text.ofChars decoded.text)))

/-- Nothing happened: the tree is as it was, and the summary says neither changed nor written. -/
def Processed.Idle (processed : Processed) (tree : FileTree) : Prop :=
  processed.tree = tree ∧ ∃ file stats, processed.entry = .summary file ∧
    file.sieved = some stats ∧ stats.changed = false ∧ stats.written = false

namespace Service

variable {service : Service} {runId : String} {tree : FileTree} {target : Target}
  {bytes : ByteArray} {decoded : Decoded}

/-- The content that sieving gives a file. -/
def output (service : Service) (decoded : Decoded) : ByteArray :=
  (service.rules.pass decoded.text).content

theorem output_text {rules : Rules} (ruled : service.rules = rules) (decoded : Decoded) :
    service.output decoded = Text.encode (decoded.sieved rules).render := by
  rw [output, ruled]
  rfl

theorem load_ok_iff : service.load tree target = .ok (bytes, decoded) ↔
    tree.readFile target.path = .ok bytes ∧ service.withholds target.path = none ∧
      service.decoder.decode bytes = .ok decoded := by
  unfold load
  constructor
  · intro loaded
    split at loaded
    · cases loaded
    · cases loaded
    · rename_i content read free
      split at loaded
      · cases loaded
      · rename_i text understood
        obtain ⟨rfl, rfl⟩ := Prod.mk.inj (Except.ok.inj loaded)
        exact ⟨read, free, understood⟩
  · rintro ⟨read, free, understood⟩
    rw [read, free]
    simp only [understood]

theorem process_unread {fault : Fault} (failed : service.load tree target = .error fault)
    (mode : Mode) : ∃ failure, (service.process runId mode tree target).entry = .failure failure := by
  unfold process conclude
  rw [failed]
  exact ⟨_, rfl⟩

theorem strip_unchanged (loaded : service.load tree target = .ok (bytes, decoded))
    (same : service.output decoded = bytes) :
    (service.process runId .strip tree target).Idle tree := by
  unfold process conclude
  rw [loaded]
  have unchanged : (service.output decoded != bytes) = false :=
    Bool.eq_false_iff.mpr fun changed => bytes_bne_iff.mp changed same
  unfold output at unchanged
  simp only [unchanged, Bool.and_false, Bool.false_eq_true, ↓reduceIte, reduceCtorEq]
  exact ⟨rfl, _, _, rfl, rfl, rfl, rfl⟩

theorem strip_changed (loaded : service.load tree target = .ok (bytes, decoded))
    (differs : service.output decoded ≠ bytes) :
    (∃ fault failure, service.writeBack tree target.path
          (service.output decoded) = .error fault ∧
        (service.process runId .strip tree target).entry = .failure failure) ∨
      service.writeBack tree target.path (service.output decoded) =
          .ok (service.process runId .strip tree target).tree ∧
        ∃ file stats, (service.process runId .strip tree target).entry = .summary file ∧
          file.sieved = some stats ∧ stats.changed = true := by
  unfold process conclude
  rw [loaded]
  have changed : (service.output decoded != bytes) = true :=
    bytes_bne_iff.mpr differs
  unfold output at changed ⊢
  simp only [changed, Bool.and_true, decide_true, ↓reduceIte, reduceCtorEq]
  split
  · rename_i after written
    exact Or.inr ⟨written, _, _, rfl, rfl, rfl⟩
  · rename_i fault refused
    exact Or.inl ⟨fault, _, refused, rfl⟩

theorem strip_idle_iff (loaded : service.load tree target = .ok (bytes, decoded)) :
    (service.process runId .strip tree target).Idle tree ↔
      service.output decoded = bytes := by
  constructor
  · rintro ⟨-, file, stats, entry, sieved, unchanged, -⟩
    apply Classical.byContradiction
    intro differs
    rcases strip_changed loaded differs with
      ⟨-, failure, -, failed⟩ | ⟨-, other, found, again, same, changed⟩
    · rw [entry] at failed
      cases failed
    · obtain rfl := Entry.summary.inj (entry.symm.trans again)
      obtain rfl := Option.some.inj (sieved.symm.trans same)
      rw [unchanged] at changed
      cases changed
  · exact strip_unchanged loaded

theorem writeBack_read {path : String} {old content : ByteArray} {after : FileTree}
    (read : tree.readFile path = .ok old) (written : service.writeBack tree path content = .ok after) :
    after.readFile path = .ok content := by
  unfold writeBack at written
  split at written
  · cases written
  · split at written
    · cases written
    · cases result : tree.writeFile path content with
      | error e =>
        rw [result] at written
        cases written
      | ok other =>
        rw [result] at written
        obtain rfl := Except.ok.inj written
        exact FileTree.readFile_writeFile read result

theorem writeBack_accepts {path : String} {old : ByteArray} (read : tree.readFile path = .ok old)
    (accepts : service.refuses path = none) (content : ByteArray) :
    ∃ after, service.writeBack tree path content = .ok after := by
  obtain ⟨place, led⟩ := FileTree.readFile_ok_iff.mp read
  simp only [writeBack, FileTree.stat, FileTree.node, led, accepts, FileTree.writeFile]
  exact ⟨_, rfl⟩

theorem strip_succeeds (loaded : service.load tree target = .ok (bytes, decoded))
    (accepts : service.refuses target.path = none) :
    ∃ file, (service.process runId .strip tree target).entry = .summary file := by
  by_cases same : service.output decoded = bytes
  · have idle : (service.process runId .strip tree target).Idle tree := strip_unchanged loaded same
    obtain ⟨-, file, stats, entry, -⟩ := idle
    exact ⟨file, entry⟩
  · rcases strip_changed loaded same with ⟨fault, -, refused, -⟩ | ⟨-, file, stats, entry, -⟩
    · obtain ⟨after, written⟩ := writeBack_accepts (load_ok_iff.mp loaded).1 accepts
        (service.output decoded)
      rw [written] at refused
      cases refused
    · exact ⟨file, entry⟩

theorem strip_leaves (loaded : service.load tree target = .ok (bytes, decoded)) {file : FileSummary}
    (stripped : (service.process runId .strip tree target).entry = .summary file) :
    (service.process runId .strip tree target).tree.readFile target.path =
      .ok (service.output decoded) := by
  have read := (load_ok_iff.mp loaded).1
  by_cases same : service.output decoded = bytes
  · rw [(strip_unchanged loaded same).1, same]
    exact read
  · rcases strip_changed loaded same with ⟨-, failure, -, failed⟩ | ⟨written, -⟩
    · rw [stripped] at failed
      cases failed
    · exact writeBack_read read written

theorem load_written (standard : service.decoder = .default)
    (free : service.withholds target.path = none) {lines : List (List Char)}
    (read : tree.readFile target.path = .ok (Text.encode (Text.renderLines lines))) :
    ∃ loaded, service.load tree target = .ok (Text.encode (Text.renderLines lines), loaded) ∧
      Text.splitLines loaded.text = reread lines := by
  have understood := default_decode_encode (Text.renderLines lines)
  rw [← standard] at understood
  exact ⟨_, load_ok_iff.mpr ⟨read, free, understood⟩, rfl⟩

end Service

/-- When a second strip run is idle. With the default decoder and rules that compile, whose markers
are text, a strip run that succeeds leaves its rendered output in the file, and a second one finds
nothing to change exactly if that output can be read back: its first line does not start with a byte
order mark and none of its lines ends with a carriage return. -/
theorem second_strip_idle_iff (spec : RuleSpec) (rules : Rules) (compiled : spec.compile = .ok rules)
    (service : Service) (ruled : service.rules = rules) (standard : service.decoder = .default)
    (runId again : String) (tree : FileTree) (target : Target) (file : FileSummary)
    (stripped : (service.process runId .strip tree target).entry = .summary file) :
    let first := service.process runId .strip tree target
    ∃ bytes decoded, service.load tree target = .ok (bytes, decoded) ∧
      first.tree.readFile target.path = .ok (Text.encode (decoded.sieved rules).render) ∧
      ((service.process again .strip first.tree target).Idle first.tree ↔
        Rereadable (decoded.sieved rules).lines) := by
  intro first
  cases loaded : service.load tree target with
  | error fault =>
    obtain ⟨failure, failed⟩ := Service.process_unread loaded .strip
    rw [stripped] at failed
    cases failed
  | ok pair =>
    obtain ⟨bytes, decoded⟩ := pair
    have left := Service.strip_leaves loaded stripped
    rw [Service.output_text ruled] at left
    refine ⟨bytes, decoded, rfl, left, ?_⟩
    have free := (Service.load_ok_iff.mp loaded).2.1
    obtain ⟨second, reloaded, lines⟩ := Service.load_written standard free left
    have accepted := RuleSpec.accepted_of_compile compiled
    refine Iff.trans ?_ (sieve_reread_iff accepted decoded.text)
    rw [Service.strip_idle_iff reloaded, Service.output_text ruled, Decoded.sieved,
      Text.ofChars_self, lines]
    exact ⟨Text.encode_inj, congrArg Text.encode⟩

def FileTree.script (content : ByteArray) : FileTree := ⟨.file "a.lua" content .nil, []⟩

def Target.script : Target := ⟨"a.lua", "a.lua", some .lua⟩

theorem FileTree.readFile_script (content : ByteArray) :
    (script content).readFile Target.script.path = .ok content := by
  refine readFile_ok_iff.mpr ⟨["a.lua"], ?_⟩
  have parts : names "a.lua" = ["a.lua"] := by decide +kernel
  have relative : isRooted "a.lua" = false := by decide +kernel
  have short : ¬ maxNameBytes < "a.lua".utf8ByteSize := by decide +kernel
  simp [resolve, script, Target.script, parts, relative, resolveFrom, Listing.at?, Listing.find?,
    short]

theorem Service.load_script (rules : Rules) (text : List Char) :
    Service.load { rules } (.script (Text.encode text)) .script =
      .ok (Text.encode text, ⟨Encoding.dropMark text, "utf-8"⟩) :=
  Service.load_ok_iff.mpr ⟨FileTree.readFile_script _, rfl, default_decode_encode text⟩

theorem second_strip_idle_iff_script :
    let service : Service := { rules := Rules.lua }
    let tree := FileTree.script (Text.encode "print(1)\nx = 1 -- one\n".toList)
    let first := service.process "1" .strip tree .script
    (RuleSpec.ofDialect .lua).compile = .ok Rules.lua ∧ service.rules = Rules.lua ∧
      service.decoder = .default ∧ ∃ file, first.entry = .summary file ∧
      ∃ bytes decoded, service.load tree .script = .ok (bytes, decoded) ∧
        first.tree.readFile Target.script.path = .ok (Text.encode (decoded.sieved .lua).render) ∧
        ((service.process "2" .strip first.tree .script).Idle first.tree ↔
          Rereadable (decoded.sieved .lua).lines) := by
  intro service tree first
  obtain ⟨file, stripped⟩ := Service.strip_succeeds (Service.load_script .lua _) rfl
  exact ⟨RuleSpec.compile_lua, rfl, rfl, file, stripped,
    second_strip_idle_iff _ .lua RuleSpec.compile_lua service rfl rfl "1" "2" tree .script file
      stripped⟩

/-- A second strip run is not always idle: of two byte order marks in a row each run takes one. -/
theorem second_strip_busy :
    ¬ ∀ (spec : RuleSpec) (rules : Rules) (service : Service), spec.compile = .ok rules →
      service.rules = rules → service.decoder = .default →
      ∀ (runId again : String) (tree : FileTree) (target : Target) (file : FileSummary),
        (service.process runId .strip tree target).entry = .summary file →
        (service.process again .strip (service.process runId .strip tree target).tree target).Idle
          (service.process runId .strip tree target).tree := by
  intro idle
  have ruled : ({ rules := Rules.lua } : Service).rules = Rules.lua := rfl
  have loaded := Service.load_script .lua "\ufeff\ufeffx = 1\n".toList
  obtain ⟨file, stripped⟩ := Service.strip_succeeds loaded rfl
  have left := Service.strip_leaves loaded stripped
  rw [Service.output_text ruled] at left
  have second := idle _ _ _ RuleSpec.compile_lua ruled rfl "" "" _ _ file stripped
  have free := (Service.load_ok_iff.mp loaded).2.1
  obtain ⟨text, reloaded, lines⟩ := Service.load_written rfl free left
  have same := (Service.strip_idle_iff reloaded).mp second
  rw [Service.output_text ruled, Decoded.sieved, Text.ofChars_self, lines] at same
  exact absurd (Text.encode_inj same) (by decide +kernel)

end LineSieve
