/-
# What the size limit says

A file is read up to one byte more than allowed, and what was read has to be text before it is
measured.  For a file whose content is a text there are three outcomes (`size_limit_decides`): a
file within the limit is read whole; a larger one is called too large if what was read ends between
two of its characters; and if a character is cut there, the file is refused for not being text,
although it is.  So the limit alone decides what is accepted, but every refusal names it exactly if
every character takes one byte (`limit_is_named_iff`).

The first bytes of a text are text exactly if they end at a valid position, so all of it is a matter
of sizes and positions.
-/
import Mathlib.Data.String.Basic
import TemplatedConfig.Config.Loading
import TemplatedConfig.Files.Tree

namespace TemplatedConfig

/-! ## 1. Files that hold a text -/

/-- A path leads to a regular file with a text as its content: what is read are the first bytes,
and all of them if there are no more.  The size of a file has 64 bits. -/
structure Files.FileSystem.HasFile {m : Type → Type} [Monad m] (fs : Files.FileSystem m)
    (path text : String) : Prop where
  size_lt : text.utf8ByteSize < Nat.pow 2 64
  read_eq : ∀ count, fs.read path count = pure (.ok (text.toUTF8.extract 0 count))

/-- The files of a tree in memory are files. -/
theorem Files.Tree.hasFile {t : Files.Tree} {path text : String}
    (hsize : text.utf8ByteSize < Nat.pow 2 64) (h : t.resolve path = .ok (.file text.toUTF8)) :
    t.system.HasFile path text where
  size_lt := hsize
  read_eq count := by
    have hbytes : text.toUTF8.extract 0 (min count text.toUTF8.size) =
        text.toUTF8.extract 0 count := by
      ext1
      simp only [ByteArray.data_extract, ← ByteArray.size_data]
      grind
    show (t.resolve path).bind (bytes count) = _
    rw [h]
    exact congrArg Except.ok hbytes

/-! ## 2. The first bytes of a text -/

theorem fromUTF8?_toUTF8 (text : String) : String.fromUTF8? text.toUTF8 = some text := by
  unfold String.fromUTF8?
  exact dif_pos text.isValidUTF8

theorem extract_toUTF8_of_size_le {text : String} {count : Nat} (h : text.utf8ByteSize ≤ count) :
    text.toUTF8.extract 0 count = text.toUTF8 := by
  ext1
  rw [← String.size_toByteArray, ← ByteArray.size_data] at h
  simp only [String.toUTF8_eq_toByteArray, ByteArray.data_extract]
  grind

theorem size_extract_toUTF8 {text : String} {count : Nat} (h : count ≤ text.utf8ByteSize) :
    (text.toUTF8.extract 0 count).size = count := by
  rw [ByteArray.size_extract, String.toUTF8_eq_toByteArray, String.size_toByteArray]
  omega

/-- **The first bytes of a text are a text, unless they end inside of a character.** -/
theorem fromUTF8?_extract_isSome_iff {text : String} {count : Nat} (h : count ≤ text.utf8ByteSize) :
    (String.fromUTF8? (text.toUTF8.extract 0 count)).isSome ↔
      String.Pos.Raw.IsValid text ⟨count⟩ := by
  have hle : (⟨count⟩ : String.Pos.Raw) ≤ text.rawEndPos := String.Pos.Raw.le_iff.mpr h
  rw [String.Pos.Raw.isValid_iff_isValidUTF8_extract_zero, and_iff_right hle]
  unfold String.fromUTF8?
  split
  next hvalid => exact iff_of_true rfl hvalid
  next hvalid => exact iff_of_false (by simp) hvalid

namespace Config

/-! ## 3. Within the limit and above -/

section

variable {text : String} {limit : Nat}

theorem boundedText_of_size_le (hsize : text.utf8ByteSize < Nat.pow 2 64)
    (h : text.utf8ByteSize ≤ limit) :
    boundedText limit (text.toUTF8.extract 0 (bytesToRead limit)) = .ok text := by
  have hread : text.utf8ByteSize ≤ bytesToRead limit := by
    unfold bytesToRead
    omega
  have hle : ¬ limit < text.toUTF8.size := by
    rw [String.toUTF8_eq_toByteArray, String.size_toByteArray]
    omega
  unfold boundedText
  rw [extract_toUTF8_of_size_le hread, fromUTF8?_toUTF8]
  exact if_neg hle

/-- Above the limit one byte more than allowed is read, however large the limit is. -/
theorem bytesToRead_of_lt_size (hsize : text.utf8ByteSize < Nat.pow 2 64)
    (h : limit < text.utf8ByteSize) : bytesToRead limit = limit + 1 := by
  unfold bytesToRead
  omega

theorem boundedText_of_lt_size (hsize : text.utf8ByteSize < Nat.pow 2 64)
    (h : limit < text.utf8ByteSize) :
    boundedText limit (text.toUTF8.extract 0 (bytesToRead limit)) =
      .error (if String.Pos.Raw.IsValid text ⟨limit + 1⟩ then .tooLarge limit else .notText) := by
  have hcount : limit + 1 ≤ text.utf8ByteSize := h
  have hread := size_extract_toUTF8 hcount
  have hvalid := fromUTF8?_extract_isSome_iff hcount
  rw [bytesToRead_of_lt_size hsize h]
  unfold boundedText
  cases hbytes : String.fromUTF8? (text.toUTF8.extract 0 (limit + 1)) with
  | none =>
    rw [hbytes] at hvalid
    rw [if_neg fun hv => absurd (hvalid.mpr hv) (by simp)]
  | some first =>
    have hlong : limit < (text.toUTF8.extract 0 (limit + 1)).size := by omega
    rw [hbytes] at hvalid
    rw [if_pos (hvalid.mp rfl)]
    exact if_pos hlong

end

/-! ## 4. Texts that are never cut -/

theorem utf8ByteSize_eq_utf8Len (text : String) :
    text.utf8ByteSize = String.utf8Len text.toList := by
  rw [← String.utf8ByteSize_ofList, String.ofList_toList]

theorem utf8Len_eq_length {chars : List Char} (h : ∀ c ∈ chars, c.utf8Size = 1) :
    String.utf8Len chars = chars.length := by
  induction chars with
  | nil => rfl
  | cons c rest ih =>
    rw [List.forall_mem_cons] at h
    rw [String.utf8Len_cons, List.length_cons, ih h.2, h.1]

/-- Behind the first byte of a character there is a valid position only if that byte is all of it:
the text up to there cannot end inside of the character. -/
theorem utf8Size_eq_one_of_isValid {text : String} {before after : List Char} {c : Char}
    (hsplit : text.toList = before ++ c :: after)
    (h : String.Pos.Raw.IsValid text ⟨String.utf8Len before + 1⟩) : c.utf8Size = 1 := by
  obtain ⟨first, rest, htext, hplace⟩ := String.Pos.Raw.isValid_iff_exists_append.mp h
  have hpos := c.utf8Size_pos
  have hfirst : String.utf8Len first.toList = String.utf8Len before + 1 := by
    rw [← utf8ByteSize_eq_utf8Len]
    exact (String.Pos.Raw.ext_iff.mp hplace).symm
  have hupto : before ++ [c] <+: text.toList := ⟨after, by rw [hsplit, List.append_assoc]; rfl⟩
  have hprefix : first.toList <+: text.toList := ⟨rest.toList, by rw [htext, String.toList_append]⟩
  rcases List.prefix_or_prefix_of_prefix hupto hprefix with hle | hle
  · have hsize := String.utf8Len_le_of_prefix hle
    rw [String.utf8Len_append, hfirst, String.utf8Len_cons, String.utf8Len_nil] at hsize
    omega
  · rcases List.prefix_concat_iff.mp hle with heq | hbefore
    · rw [heq, String.utf8Len_append, String.utf8Len_cons, String.utf8Len_nil] at hfirst
      omega
    · have hsize := String.utf8Len_le_of_prefix hbefore
      omega

theorem isValid_of_le_length {text : String} (hall : ∀ c ∈ text.toList, c.utf8Size = 1)
    {place : Nat} (h : place ≤ text.toList.length) : String.Pos.Raw.IsValid text ⟨place⟩ := by
  have hfirst : ∀ c ∈ text.toList.take place, c.utf8Size = 1 :=
    fun c hc => hall c (List.mem_of_mem_take hc)
  refine String.Pos.Raw.isValid_iff_exists_append.mpr
    ⟨.ofList (text.toList.take place), .ofList (text.toList.drop place), ?_, ?_⟩
  · rw [← String.ofList_append, List.take_append_drop, String.ofList_toList]
  · rw [String.Pos.Raw.ext_iff, String.byteIdx_rawEndPos, String.utf8ByteSize_ofList,
      utf8Len_eq_length hfirst, List.length_take]
    exact (min_eq_left h).symm

/-- Every position is valid exactly if every character takes one byte. -/
theorem forall_isValid_iff {text : String} :
    (∀ limit < text.utf8ByteSize, String.Pos.Raw.IsValid text ⟨limit + 1⟩) ↔
      ∀ c ∈ text.toList, c.utf8Size = 1 := by
  rw [utf8ByteSize_eq_utf8Len]
  constructor
  · intro h c hc
    obtain ⟨before, after, hsplit⟩ := List.append_of_mem hc
    have hpos := c.utf8Size_pos
    have hlimit : String.utf8Len before < String.utf8Len text.toList := by
      rw [hsplit, String.utf8Len_append, String.utf8Len_cons]
      omega
    exact utf8Size_eq_one_of_isValid hsplit (h _ hlimit)
  · intro hall limit hlimit
    rw [utf8Len_eq_length hall] at hlimit
    exact isValid_of_le_length hall hlimit

/-- **When the limit is named in every refusal.**  Files of one-byte characters are told their
limit whatever it is; for all others there is a limit at which they are called no text. -/
theorem limit_is_named_iff {text : String} (hsize : text.utf8ByteSize < Nat.pow 2 64) :
    (∀ limit < text.utf8ByteSize, boundedText limit (text.toUTF8.extract 0 (bytesToRead limit)) =
        .error (.tooLarge limit)) ↔ ∀ c ∈ text.toList, c.utf8Size = 1 := by
  rw [← forall_isValid_iff]
  refine forall₂_congr fun limit hlimit => ?_
  rw [boundedText_of_lt_size hsize hlimit]
  split
  next hvalid => exact iff_of_true rfl hvalid
  next hvalid => exact iff_of_false (by simp) hvalid

/-! ## 5. Reading a file -/

section

variable {m : Type → Type} [Monad m] [LawfulMonad m] {fs : Files.FileSystem m}
  {path text : String}

theorem run_located_pure {α : Type} (result : Except Files.Problem α) :
    (Files.located path (pure result : m (Except Files.Problem α))).run =
      pure (result.mapError (Fault.ofFile path)) := by
  unfold Files.located
  cases result <;> simp [Except.mapError]

theorem run_readText (h : fs.HasFile path text) (limit : Nat) :
    (readText fs path limit).run = pure
      ((boundedText limit (text.toUTF8.extract 0 (bytesToRead limit))).mapError
        (Fault.ofFile path)) := by
  unfold readText
  rw [h.read_eq, pure_bind]
  exact run_located_pure _

/-- **What becomes of a file with a text.**  It is read whole if it is within the limit and refused
otherwise.  The refusal says that the file is too large if one byte more than the limit ends between
two characters, and that it is no text if a character is cut there. -/
theorem size_limit_decides (h : fs.HasFile path text) (limit : Nat) :
    (readText fs path limit).run = pure (
      if text.utf8ByteSize ≤ limit then .ok text
      else if String.Pos.Raw.IsValid text ⟨limit + 1⟩ then
        .error (Fault.ofFile path (.tooLarge limit))
      else .error (Fault.ofFile path .notText)) := by
  rw [run_readText h]
  split
  next hle => rw [boundedText_of_size_le h.size_lt hle]; rfl
  next hle =>
    rw [boundedText_of_lt_size h.size_lt (Nat.lt_of_not_le hle)]
    split <;> rfl

end

namespace Example

/-- A directory with one file, a comment of three characters that takes four bytes. -/
def noted : Files.Tree := .directory [("a.yaml", .file "# é".toUTF8)]

theorem pieces_noted : Files.PathName.pieces "a.yaml" = ["a.yaml"] := by
  unfold Files.PathName.pieces String.splitOn
  rw [if_neg (by decide)]
  repeat (rw [String.splitOnAux]; simp +decide only [↓reduceIte])

theorem hasFile_noted : noted.system.HasFile "a.yaml" "# é" := by
  refine Files.Tree.hasFile (by decide) ?_
  unfold Files.Tree.resolve
  rw [if_neg (by decide), pieces_noted]
  rfl

/-- It is read whole, too large by its last byte, or cut inside of its last character. -/
theorem noted_at_each_limit :
    (readText noted.system "a.yaml" 4).run = .ok "# é" ∧
      (readText noted.system "a.yaml" 3).run = .error (Fault.ofFile "a.yaml" (.tooLarge 3)) ∧
      (readText noted.system "a.yaml" 2).run = .error (Fault.ofFile "a.yaml" .notText) := by
  have h := size_limit_decides hasFile_noted
  refine ⟨(h 4).trans (if_pos (by decide)), ?_, ?_⟩
  · exact (h 3).trans ((if_neg (by decide)).trans (if_pos (by decide)))
  · exact (h 2).trans ((if_neg (by decide)).trans (if_neg (by decide)))

/-- **The refusal need not name the limit**: of four bytes three are read, the last of which is the
first half of a character. -/
theorem cut_character_hides_limit :
    noted.system.HasFile "a.yaml" "# é" ∧ 2 < "# é".utf8ByteSize ∧
      (readText noted.system "a.yaml" 2).run = .error (Fault.ofFile "a.yaml" .notText) ∧
      (readText noted.system "a.yaml" 2).run ≠ .error (Fault.ofFile "a.yaml" (.tooLarge 2)) := by
  have hrun : (readText noted.system "a.yaml" 2).run = .error (Fault.ofFile "a.yaml" .notText) := by
    rw [run_readText hasFile_noted, boundedText_of_lt_size (by decide) (by decide)]
    rfl
  refine ⟨hasFile_noted, by decide, hrun, fun hlarge => ?_⟩
  have hproblem : Fault.ofFile "a.yaml" .notText = Fault.ofFile "a.yaml" (.tooLarge 2) :=
    Except.error.inj (hrun.symm.trans hlarge)
  simp [Fault.ofFile] at hproblem

end Example

end Config

end TemplatedConfig
