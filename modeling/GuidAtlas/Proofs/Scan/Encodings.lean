import GuidAtlas.Proofs.Scan.Accounting
import GuidAtlas.Proofs.Text.Utf16

/-!
The encodings of header files. A text without a byte order mark of its own is read back from each of
them, so nothing that a scan finds depends on how its headers are stored.
-/

namespace GuidAtlas.Scan

open Text Storage

def byteOrderMark : Char := '\uFEFF'

/-- How the text of a header is stored. -/
inductive Encoding where
  | plain
  /-- UTF-8 after a byte order mark. -/
  | marked
  /-- UTF-16 after its byte order mark, with perhaps a single byte at the end. -/
  | wide (stray : Option UInt8)

/-- The file that holds a text. -/
def Encoding.bytes (t : Text) : Encoding → List UInt8
  | .plain => (String.ofList t).toByteArray.data.toList
  | .marked => 0xEF :: 0xBB :: 0xBF :: (String.ofList t).toByteArray.data.toList
  | .wide stray => 0xFF :: 0xFE :: (encode16 t ++ stray.toList)

variable {t : Text} {bytes : List UInt8}

theorem decodeHeader_eq_decodeLossy (hwide : ¬[0xFF, 0xFE] <+: bytes)
    (hmark : ¬[0xEF, 0xBB, 0xBF] <+: bytes) : decodeHeader bytes = decodeLossy bytes := by
  rw [decodeHeader]
  · rintro rest rfl
    exact hwide ⟨rest, rfl⟩
  · rintro rest rfl
    exact hmark ⟨rest, rfl⟩

theorem lt_of_mem_encodeChar {c : Char} {b : UInt8} (h : b ∈ encodeChar c) : b.toNat < 0xFF := by
  have hvalid : c.toNat < 0xD800 ∨ 0xDFFF < c.toNat ∧ c.toNat < 0x110000 := c.valid
  simp only [encodeChar] at h
  repeat' split at h
  all_goals
    simp only [List.mem_cons, List.not_mem_nil, or_false] at h
    rcases h with rfl | rfl | rfl | rfl <;> rw [toNat_toUInt8 (by omega)] <;> omega

theorem encode_mark : encode [byteOrderMark] = [0xEF, 0xBB, 0xBF] := by decide

theorem mark_prefix_encode_iff :
    [0xEF, 0xBB, 0xBF] <+: encode t ↔ t.head? = some byteOrderMark := by
  constructor
  · rintro ⟨rest, hrest⟩
    have hdecoded := decodeFrom_encode t
    rw [← hrest, ← encode_mark, encode, List.flatMap_cons, List.flatMap_nil, List.append_nil,
      decodeFrom_encodeChar] at hdecoded
    cases t with
    | nil => cases hdecoded
    | cons c t =>
        rw [List.map_cons, List.cons.injEq, Option.some.injEq] at hdecoded
        rw [List.head?_cons, hdecoded.1]
  · intro h
    obtain ⟨rest, rfl⟩ := List.head?_eq_some_iff.1 h
    rw [← encode_mark, encode, encode, List.flatMap_cons, List.flatMap_cons, List.flatMap_nil,
      List.append_nil]
    exact List.prefix_append _ _

theorem decodeHeader_encode (h : t.head? ≠ some byteOrderMark) : decodeHeader (encode t) = t := by
  have hwide : ¬[0xFF, 0xFE] <+: encode t := by
    intro hstart
    obtain ⟨c, -, hbyte⟩ := List.mem_flatMap.1 (hstart.subset List.mem_cons_self)
    exact absurd (lt_of_mem_encodeChar hbyte) (by decide)
  rw [decodeHeader_eq_decodeLossy hwide (mt mark_prefix_encode_iff.1 h), decodeLossy_encode]

/-- A mark in front of the text would be taken for that of the file. -/
theorem decodeHeader_plain_iff :
    decodeHeader (Encoding.plain.bytes t) = t ↔ t.head? ≠ some byteOrderMark := by
  rw [Encoding.bytes, ← encode_eq_utf8Encode]
  refine ⟨fun h hmark => ?_, decodeHeader_encode⟩
  obtain ⟨rest, rfl⟩ := List.head?_eq_some_iff.1 hmark
  have hmarked : encode (byteOrderMark :: rest) = 0xEF :: 0xBB :: 0xBF :: encode rest := by
    rw [encode, List.flatMap_cons]
    rfl
  rw [hmarked, decodeHeader, decodeLossy_encode] at h
  exact absurd (congrArg List.length h) (by simp)

theorem decodeHeader_bytes (h : t.head? ≠ some byteOrderMark) (encoding : Encoding) :
    decodeHeader (encoding.bytes t) = t := by
  cases encoding with
  | plain => exact decodeHeader_plain_iff.2 h
  | marked => rw [Encoding.bytes, ← encode_eq_utf8Encode, decodeHeader, decodeLossy_encode]
  | wide stray =>
      rw [Encoding.bytes, decodeHeader]
      exact decode16_encode16 t (by cases stray <;> simp)

/-- A text that does not begin with a byte order mark is read back from every encoding, so its
header declares the same and has the same diagnostics in all of them. -/
theorem read_sameInEveryEncoding (h : t.head? ≠ some byteOrderMark) (encoding : Encoding) :
    decodeHeader (encoding.bytes t) = t ∧
    ∀ (other : Encoding) (projected : Bool) (file : Text),
      (Header.read projected (decodeHeader (encoding.bytes t))).declarations =
        (Header.read projected (decodeHeader (other.bytes t))).declarations ∧
      (Header.read projected (decodeHeader (encoding.bytes t))).diagnostics file =
        (Header.read projected (decodeHeader (other.bytes t))).diagnostics file := by
  refine ⟨decodeHeader_bytes h encoding, fun other projected file => ?_⟩
  rw [decodeHeader_bytes h, decodeHeader_bytes h]
  exact ⟨rfl, rfl⟩

/-- A name with a character beyond the first plane, and a stray byte at the end of the file. -/
theorem read_sameInEveryEncoding_pair :
    let t : Text := "MIDL_INTERFACE(\"aec22fb8-76f3-4639-9be0-28eb43a67a2e\") I𝒳"
    let encoding : Encoding := .wide (some 0x41)
    t.head? ≠ some byteOrderMark ∧
    (encoding.bytes t).drop 112 = [0x49, 0x00, 0x35, 0xD8, 0xB3, 0xDC, 0x41] ∧
    decodeHeader (encoding.bytes t) = t ∧
    (Header.read true (decodeHeader (encoding.bytes t))).declarations.map Header.Declaration.name =
      ["I𝒳".toList] ∧
    (Header.read true (decodeHeader (encoding.bytes t))).declarations =
      (Header.read true (decodeHeader (Encoding.marked.bytes t))).declarations := by
  intro t encoding
  have hmark : t.head? ≠ some byteOrderMark := by decide
  obtain ⟨hdecoded, hsame⟩ := read_sameInEveryEncoding hmark encoding
  refine ⟨hmark, by decide +kernel, hdecoded, ?_, (hsame .marked true []).1⟩
  rw [hdecoded]
  decide +kernel

/-- Files of one name that hold one text, each in its own encoding. -/
def SameHeader (file other : Text × List UInt8) : Prop :=
  file.1 = other.1 ∧ ∃ t encoding otherEncoding, List.head? t ≠ some byteOrderMark ∧
    file.2 = Encoding.bytes t encoding ∧ other.2 = Encoding.bytes t otherEncoding

/-- Storing the headers of the folders in other encodings changes nothing that a scan reports. -/
theorem scan_eq_of_sameHeaders {settings : ScanSettings} {tree other : Tree}
    (hroot : tree.isDirectory settings.sdkPath = other.isDirectory settings.sdkPath)
    (hheaders : ∀ subfolder ∈ settings.effectiveSubfolders, List.Forall₂ SameHeader
      (headerFiles tree (folderPath settings.sdkPath subfolder))
      (headerFiles other (folderPath settings.sdkPath subfolder))) :
    scan settings tree = scan settings other := by
  have hread : headersOf settings tree = headersOf settings other := by
    refine List.flatMap_congr fun subfolder hsubfolder => ?_
    rw [← List.forall₂_eq_eq_eq, List.forall₂_map_left_iff, List.forall₂_map_right_iff]
    refine (hheaders subfolder hsubfolder).imp ?_
    rintro ⟨name, _⟩ ⟨_, _⟩ ⟨rfl, t, encoding, otherEncoding, hmark, rfl, rfl⟩
    simp only [decodeHeader_bytes hmark]
  rw [scan_eq, scan_eq, hroot, hread]

end GuidAtlas.Scan
