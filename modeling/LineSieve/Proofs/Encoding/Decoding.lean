import LineSieve.Proofs.Run.Changed

/- What decoding gives back of a file. Strict UTF-8 takes well-formed bytes only and loses at most
   one byte order mark; the character set behind it in the default list takes all other bytes one by
   one. In any list the first character set that accepts a file decodes it. -/
namespace LineSieve

open Encoding

variable {library : Library} {bytes : ByteArray} {candidates : List (String × Charset)}

/-- The decoders of a library never fail. -/
def Encoding.Library.Total (library : Library) : Prop :=
  ∀ name read, library name = some (some read) → ∀ bytes, ∃ text, read bytes = .ok text

/-- What comes of reading bytes with a list of character sets, of which only strict UTF-8 refuses
anything. -/
structure FirstAccepts (candidates : List (String × Charset)) (bytes : ByteArray)
    (found : Except Undecodable Decoded) : Prop where
  /-- It fails exactly if there is nothing but UTF-8 to read the bytes with, and they are not. -/
  fails : ∀ e, found = .error e ↔ (∀ entry ∈ candidates, entry.2 = .utf8) ∧ ¬ bytes.IsValidUTF8 ∧
    e = .refused "invalid utf-8 sequence"
  /-- Otherwise the first entry that accepts the bytes decodes them and is reported. -/
  reads : ∀ decoded, found = .ok decoded ↔ ∃ before name charset behind,
    candidates = before ++ (name, charset) :: behind ∧
      (∀ entry ∈ before, entry.2 = .utf8 ∧ ¬ bytes.IsValidUTF8) ∧
      charset.decode bytes = .ok decoded.text ∧ decoded.encoding = name

section Lists

theorem utf8_decode_error_iff {reason : String} : Charset.utf8.decode bytes = .error reason ↔
    ¬ bytes.IsValidUTF8 ∧ reason = "invalid utf-8 sequence" := by
  rw [Charset.decode, Text.decode?, String.fromUTF8?]
  split
  · rename_i text understood
    split at understood
    · rename_i valid
      simp [valid]
    · cases understood
  · rename_i refused
    split at refused
    · cases refused
    · rename_i invalid
      simp [invalid, eq_comm]

theorem Charset.refuses_iff {charset : Charset} {reason : String}
    (total : ∀ read, charset = .other read → ∃ text, read bytes = .ok text) :
    charset.decode bytes = .error reason ↔ charset = .utf8 ∧ ¬ bytes.IsValidUTF8 ∧
      reason = "invalid utf-8 sequence" := by
  cases charset with
  | utf8 => simp [utf8_decode_error_iff]
  | other read =>
    obtain ⟨text, understood⟩ := total read rfl
    simp [decode, understood]

theorem firstAccepting_error_iff {refusal : String}
    (refuses : ∀ entry ∈ candidates, ∀ reason, entry.2.decode bytes = .error reason →
      reason = refusal) {last e : Undecodable}
    (later : candidates = [] → last = .refused refusal) :
    Decoder.firstAccepting bytes last candidates = .error e ↔
      (∀ entry ∈ candidates, entry.2.decode bytes = .error refusal) ∧ e = .refused refusal := by
  induction candidates generalizing last with
  | nil =>
    rw [Decoder.firstAccepting, later rfl]
    exact ⟨fun same => ⟨List.forall_mem_nil _, (Except.error.inj same).symm⟩,
      fun same => congrArg Except.error same.2.symm⟩
  | cons entry candidates ih =>
    obtain ⟨first, others⟩ := List.forall_mem_cons.mp refuses
    rw [Decoder.firstAccepting, List.forall_mem_cons]
    cases read : entry.2.decode bytes with
    | ok text =>
      constructor
      · rintro ⟨⟩
      · rintro ⟨⟨⟨⟩, -⟩, -⟩
    | error reason =>
      obtain rfl := first reason read
      exact (ih others fun _ => rfl).trans (and_congr_left fun _ => (and_iff_right rfl).symm)

theorem firstAccepting_ok_iff {last : Undecodable} {decoded : Decoded} :
    Decoder.firstAccepting bytes last candidates = .ok decoded ↔
      ∃ (before : List (String × Charset)) (name : String) (charset : Charset)
        (behind : List (String × Charset)), candidates = before ++ (name, charset) :: behind ∧
        (∀ entry ∈ before, ∃ reason, entry.2.decode bytes = .error reason) ∧
        charset.decode bytes = .ok decoded.text ∧ decoded.encoding = name := by
  induction candidates generalizing last with
  | nil =>
    constructor
    · rintro ⟨⟩
    · rintro ⟨before, name, charset, behind, split, -⟩
      exact absurd split.symm (List.append_ne_nil_of_right_ne_nil _ (List.cons_ne_nil _ _))
  | cons entry candidates ih =>
    obtain ⟨name, charset⟩ := entry
    rw [Decoder.firstAccepting]
    cases accepted : charset.decode bytes with
    | error reason =>
      refine ih.trans ⟨?_, ?_⟩
      · rintro ⟨before, other, chosen, behind, rfl, refused, read, reported⟩
        refine ⟨(name, charset) :: before, other, chosen, behind, rfl, ?_, read, reported⟩
        exact List.forall_mem_cons.mpr ⟨⟨reason, accepted⟩, refused⟩
      · rintro ⟨before, other, chosen, behind, split, refused, read, reported⟩
        cases before with
        | nil =>
          obtain ⟨head, rfl⟩ := List.cons.inj split
          obtain ⟨rfl, rfl⟩ := Prod.mk.inj head
          cases accepted.symm.trans read
        | cons first before =>
          obtain ⟨rfl, rfl⟩ := List.cons.inj split
          exact ⟨before, other, chosen, behind, rfl, (List.forall_mem_cons.mp refused).2, read,
            reported⟩
    | ok text =>
      constructor
      · rintro ⟨⟩
        exact ⟨[], name, charset, candidates, rfl, List.forall_mem_nil _, accepted, rfl⟩
      · rintro ⟨before, other, chosen, behind, split, refused, read, reported⟩
        cases before with
        | nil =>
          obtain ⟨head, rfl⟩ := List.cons.inj split
          obtain ⟨rfl, rfl⟩ := Prod.mk.inj head
          obtain rfl := Except.ok.inj (accepted.symm.trans read)
          rw [← reported]
        | cons first before =>
          obtain ⟨rfl, -⟩ := List.cons.inj split
          obtain ⟨reason, refused⟩ := (List.forall_mem_cons.mp refused).1
          cases accepted.symm.trans refused

theorem Decoder.decode_accepts (decoder : Decoder) (proper : decoder.candidates ≠ [])
    (total : ∀ entry ∈ decoder.candidates, ∀ read, entry.2 = .other read →
      ∃ text, read bytes = .ok text) :
    FirstAccepts decoder.candidates bytes (decoder.decode bytes) where
  fails e := by
    have refuses (entry) (listed : entry ∈ decoder.candidates) (reason : String) :
        entry.2.decode bytes = .error reason ↔ _ := Charset.refuses_iff (total entry listed)
    obtain ⟨entry, rest, split⟩ := List.exists_cons_of_ne_nil proper
    rw [decode, firstAccepting_error_iff (fun entry listed reason refused =>
      ((refuses entry listed reason).mp refused).2.2) fun empty => absurd empty proper]
    constructor
    · rintro ⟨refused, rfl⟩
      have all (entry) (listed : entry ∈ decoder.candidates) :=
        (refuses entry listed _).mp (refused entry listed)
      exact ⟨fun entry listed => (all entry listed).1,
        (all entry (split ▸ List.mem_cons_self)).2.1, rfl⟩
    · rintro ⟨all, invalid, rfl⟩
      exact ⟨fun entry listed => (refuses entry listed _).mpr ⟨all entry listed, invalid, rfl⟩, rfl⟩
  reads decoded := by
    rw [decode, firstAccepting_ok_iff]
    refine exists_congr fun before => exists_congr fun name => exists_congr fun charset =>
      exists_congr fun behind => and_congr_right fun split => and_congr_left fun _ => ?_
    refine forall₂_congr fun entry listed => ?_
    have member : entry ∈ decoder.candidates := split ▸ List.mem_append_left _ listed
    constructor
    · rintro ⟨reason, refused⟩
      obtain ⟨strict, invalid, -⟩ := (Charset.refuses_iff (total entry member)).mp refused
      exact ⟨strict, invalid⟩
    · rintro ⟨strict, invalid⟩
      exact ⟨_, (Charset.refuses_iff (total entry member)).mpr ⟨strict, invalid, rfl⟩⟩

end Lists

section Decoders

theorem ofName_total (total : library.Total) {name key : String} {charset : Charset}
    (known : ofName library name = .ok (key, charset)) (read : Reader)
    (other : charset = .other read) : ∃ text, read bytes = .ok text := by
  dsimp only [ofName] at known
  split at known
  · cases (Prod.mk.inj (Except.ok.inj known)).2.trans other
  · split at known
    · rename_i found
      obtain rfl := Charset.other.inj ((Prod.mk.inj (Except.ok.inj known)).2.trans other)
      exact total _ _ found bytes
    · cases known
    · cases known

theorem resolve_total (total : library.Total) {names : List String}
    (resolved : Decoder.resolve library names = .ok candidates) :
    candidates.length = names.length ∧ ∀ entry ∈ candidates, ∀ read, entry.2 = .other read →
      ∃ text, read bytes = .ok text := by
  induction names generalizing candidates with
  | nil =>
    cases resolved
    exact ⟨rfl, nofun⟩
  | cons name names ih =>
    obtain ⟨candidate, rest, known, later, rfl⟩ := resolve_cons_iff.mp resolved
    obtain ⟨length, others⟩ := ih later
    exact ⟨by rw [List.length_cons, List.length_cons, length],
      List.forall_mem_cons.mpr ⟨ofName_total total known, others⟩⟩

theorem Decoder.ofNames_accepts (total : library.Total) {names : List String} {decoder : Decoder}
    (resolved : Decoder.ofNames names library = .ok decoder) :
    FirstAccepts decoder.candidates bytes (decoder.decode bytes) := by
  let used := if names.isEmpty then defaultNames else names
  have proper : used ≠ [] := by
    cases names with
    | nil => decide
    | cons name names => exact List.cons_ne_nil name names
  unfold ofNames at resolved
  cases known : resolve library used with
  | error e =>
    rw [known] at resolved
    cases resolved
  | ok candidates =>
    rw [known] at resolved
    cases resolved
    obtain ⟨length, others⟩ := resolve_total total known
    exact decode_accepts _ (List.ne_nil_of_length_pos
      (length ▸ List.length_pos_of_ne_nil proper)) others

theorem latin1_codes (bytes : List UInt8) :
    (bytes.map fun b => Char.ofNat b.toNat).map Char.toNat = bytes.map UInt8.toNat := by
  rw [List.map_map]
  refine List.map_congr_left fun b _ => ?_
  have valid : b.toNat.isValidChar := Or.inl (by have := b.toNat_lt; omega)
  rw [Function.comp_apply, Char.ofNat, dif_pos valid]
  rfl

theorem mark_dropped (chars : List Char) :
    chars = dropMark chars ∨ chars = byteOrderMark :: dropMark chars := by
  cases chars with
  | nil => exact Or.inl rfl
  | cons c chars =>
    by_cases mark : c = byteOrderMark
    · exact Or.inr (by simp [dropMark, mark])
    · exact Or.inl (by simp [dropMark, mark])

theorem default_decode (bytes : ByteArray) : ∃ decoded, Decoder.default.decode bytes = .ok decoded ∧
    (decoded.encoding = "utf-8" ∧ (bytes = Text.encode decoded.text ∨
        bytes = Text.encode (byteOrderMark :: decoded.text)) ∨
      decoded.encoding = "iso-8859-1" ∧ ¬ bytes.IsValidUTF8 ∧
        decoded.text.map Char.toNat = bytes.toList.map UInt8.toNat) := by
  cases read : Charset.utf8.decode bytes with
  | error reason =>
    obtain ⟨invalid, -⟩ := utf8_decode_error_iff.mp read
    refine ⟨⟨bytes.toList.map fun b => Char.ofNat b.toNat, "iso-8859-1"⟩, ?_, Or.inr ⟨rfl, invalid,
      latin1_codes bytes.toList⟩⟩
    rw [Decoder.decode, Decoder.default, Decoder.firstAccepting, read]
    rfl
  | ok text =>
    obtain ⟨chars, valid, rfl⟩ := utf8_decode_ok_iff.mp read
    refine ⟨⟨dropMark chars, "utf-8"⟩, ?_, Or.inl ⟨rfl, ?_⟩⟩
    · rw [Decoder.decode, Decoder.default, Decoder.firstAccepting, read]
    · rw [encode_of_decode? valid]
      exact (mark_dropped chars).imp (congrArg Text.encode) (congrArg Text.encode)

end Decoders

/-- Decoding loses nothing but one byte order mark. The default decoder reads all bytes: as UTF-8,
and then the text in UTF-8, perhaps with a byte order mark in front, is what was read; or byte by
byte, and then the bytes are no UTF-8 and are the code points of the text. A decoder for any list of
names, in UTF-8 and character sets of a library that read everything, fails exactly if the list holds
nothing but UTF-8 and the bytes are not; else it reports the first entry that accepts the bytes. -/
theorem decoding_lossless (library : Library) (bytewise : library "iso-8859-1" = some (some latin1))
    (total : library.Total) (bytes : ByteArray) :
    (Decoder.ofNames [] library = .ok .default ∧
      ∃ decoded, Decoder.default.decode bytes = .ok decoded ∧
        (decoded.encoding = "utf-8" ∧ (bytes = Text.encode decoded.text ∨
            bytes = Text.encode (byteOrderMark :: decoded.text)) ∨
          decoded.encoding = "iso-8859-1" ∧ ¬ bytes.IsValidUTF8 ∧
            decoded.text.map Char.toNat = bytes.toList.map UInt8.toNat)) ∧
    ∀ names decoder, Decoder.ofNames names library = .ok decoder →
      FirstAccepts decoder.candidates bytes (decoder.decode bytes) := by
  refine ⟨⟨?_, default_decode bytes⟩, fun names decoder => Decoder.ofNames_accepts total⟩
  have strict : ofName library "utf-8" = .ok ("utf-8", .utf8) := rfl
  have listed : ofName library "iso-8859-1" = .ok ("iso-8859-1", .other latin1) := by
    have trimmed : Text.trimString "iso-8859-1" = "iso-8859-1" := by decide +kernel
    have key : Text.lowerString "iso-8859-1" = "iso-8859-1" := by decide +kernel
    simp [ofName, trimmed, key, bytewise]
  have resolved : Decoder.resolve library Decoder.defaultNames = .ok Decoder.default.candidates :=
    resolve_cons_iff.mpr ⟨_, _, strict, resolve_cons_iff.mpr ⟨_, _, listed, rfl, rfl⟩, rfl⟩
  exact congrArg (Except.map Decoder.mk) resolved

theorem Encoding.Library.standard_total : Library.standard.Total := by
  intro name read known bytes
  unfold Library.standard at known
  dsimp only at known
  split at known
  · rename_i found listed
    cases known
    have member : (Text.lowerString name, read) ∈ names := by
      obtain ⟨before, behind, split, -⟩ := List.lookup_eq_some_iff.mp listed
      rw [split]
      exact List.mem_append_right _ List.mem_cons_self
    simp only [names, List.mem_append, List.mem_map, Prod.mk.injEq] at member
    rcases member with (((((((((⟨_, _, _, rfl⟩ | ⟨_, _, _, rfl⟩) | ⟨_, _, _, rfl⟩) |
      ⟨_, _, _, rfl⟩) | ⟨_, _, _, rfl⟩) | ⟨_, _, _, rfl⟩) | ⟨_, _, _, rfl⟩) | ⟨_, _, _, rfl⟩) |
      ⟨_, _, _, rfl⟩) | ⟨_, _, _, rfl⟩) <;> exact ⟨_, rfl⟩
  · split at known <;> cases known

/-- A letter of the Russian character set that is no UTF-8, read with UTF-8 twice and then with the
table of that character set. -/
theorem decoding_lossless_letter :
    let candidates := [("utf-8", .utf8), ("utf-8", .utf8), ("koi8-r", .other (table koi8rHigh))]
    let bytes : ByteArray := ⟨#[0xC1]⟩
    Library.standard "iso-8859-1" = some (some latin1) ∧ Library.standard.Total ∧
      Decoder.ofNames ["utf8", " UTF-8", "koi8-r"] .standard = .ok ⟨candidates⟩ ∧
      ¬ bytes.IsValidUTF8 ∧ Decoder.decode ⟨candidates⟩ bytes = .ok ⟨['\u0430'], "koi8-r"⟩ := by
  intro candidates bytes
  have bytewise : Library.standard "iso-8859-1" = some (some latin1) := rfl
  have resolved : Decoder.ofNames ["utf8", " UTF-8", "koi8-r"] .standard = .ok ⟨candidates⟩ := rfl
  have invalid : ¬ bytes.IsValidUTF8 := by decide +kernel
  obtain ⟨-, accepts⟩ := decoding_lossless .standard bytewise Library.standard_total bytes
  refine ⟨bytewise, Library.standard_total, resolved, invalid,
    ((accepts _ _ resolved).reads _).mpr ?_⟩
  refine ⟨[("utf-8", .utf8), ("utf-8", .utf8)], "koi8-r", .other (table koi8rHigh), [], rfl, ?_, ?_,
    rfl⟩
  · simpa using invalid
  · decide +kernel

end LineSieve
