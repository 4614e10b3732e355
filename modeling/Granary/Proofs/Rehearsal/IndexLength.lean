import Granary.Proofs.Rehearsal.IndexNames

/-!
# How long index names are

The name of an index is cut by bytes, but it is a text, and no text ends in the middle of a
character.  So the cut is looked for: from the last byte that leaves room for the tag the way leads
back, byte by byte, to where a character begins (`walkBack?`).  Such a place is always there, since
the first byte is one, so the walk ends and what stands before its end is a text; and it is the
first place on the way back, so no longer front of the name would have fitted
(`walkBack?_eq_some`).  This is the name that whole characters lead to as well (`shortened?_eq`).

`indexNames_fit` puts this together with what keeps the names of one table apart.
-/

namespace Granary

namespace Digest

theorem utf8Size_of_mem {c : Char} (h : c ∈ hexDigits) : c.utf8Size = 1 := by
  have hall : hexDigits.all (·.utf8Size == 1) = true := by decide
  exact beq_iff_eq.1 (List.all_eq_true.1 hall c h)

theorem utf8Len_eq_length {chars : List Char} (h : ∀ c ∈ chars, c ∈ hexDigits) :
    String.utf8Len chars = chars.length := by
  induction chars with
  | nil => rfl
  | cons c rest ih =>
    rw [List.forall_mem_cons] at h
    rw [String.utf8Len, ih h.2, utf8Size_of_mem h.1, List.length_cons]

end Digest

namespace Replica

/-! ## Fronts of a text -/

/-- The longest text that a text begins with and that some bytes have room for. -/
structure IsLongestFront (bytes : Nat) (text front : String) : Prop where
  begins : ∃ rest, text = front ++ rest
  size : front.utf8ByteSize ≤ bytes
  longest : ∀ other rest, text = other ++ rest → other.utf8ByteSize ≤ bytes →
    other.utf8ByteSize ≤ front.utf8ByteSize

variable {bytes : Nat} {text front name : String}

theorem keep_prefix (bytes : Nat) (chars : List Char) : keep bytes chars <+: chars := by
  induction chars generalizing bytes with
  | nil => exact List.prefix_rfl
  | cons c rest ih =>
    rw [keep]
    split
    · exact (List.prefix_cons_inj c).2 (ih _)
    · exact List.nil_prefix

/-- What is kept has all fronts in it that there is room for. -/
theorem prefix_keep {chars other : List Char} (h : other <+: chars)
    (hsize : String.utf8Len other ≤ bytes) : other <+: keep bytes chars := by
  obtain ⟨rest, rfl⟩ := h
  rw [keep_append hsize]
  exact List.prefix_append _ _

theorem isLongestFront_keep (bytes : Nat) (text : String) :
    IsLongestFront bytes text (String.ofList (keep bytes text.toList)) := by
  refine ⟨?_, ?_, fun other rest htext hsize => ?_⟩
  · obtain ⟨rest, hrest⟩ := keep_prefix bytes text.toList
    refine ⟨String.ofList rest, ?_⟩
    rw [← String.ofList_append, hrest, String.ofList_toList]
  · rw [String.utf8ByteSize_ofList]
    exact utf8Len_keep_le bytes text.toList
  · have hfront : other.toList <+: text.toList := ⟨rest.toList, by rw [htext, String.toList_append]⟩
    rw [← String.utf8Len_toList] at hsize
    rw [← String.utf8Len_toList, String.utf8ByteSize_ofList]
    exact String.utf8Len_le_of_prefix (prefix_keep hfront hsize)

/-- A character has four bytes at most, so no more than three bytes of the room are lost. -/
theorem IsLongestFront.lt_size_add (h : IsLongestFront bytes text front)
    (htext : bytes < text.utf8ByteSize) : bytes < front.utf8ByteSize + 4 := by
  obtain ⟨rest, rfl⟩ := h.begins
  have hsize := h.size
  rw [String.utf8ByteSize_append] at htext
  cases hrest : rest.toList with
  | nil =>
    rw [String.toList_eq_nil_iff.1 hrest] at htext
    exact absurd htext (Nat.not_lt.2 hsize)
  | cons c chars =>
    -- One character more would be too much.
    have hsplit : rest = String.singleton c ++ String.ofList chars := by
      rw [← String.toList_inj, hrest, String.toList_append, String.toList_singleton,
        String.toList_ofList, List.singleton_append]
    have hmore : (front ++ String.singleton c).utf8ByteSize = front.utf8ByteSize + c.utf8Size := by
      rw [String.utf8ByteSize_append, String.utf8ByteSize_singleton]
    have hlongest := h.longest (front ++ String.singleton c) (String.ofList chars)
      (by rw [hsplit, String.append_assoc])
    have hpos := Char.utf8Size_pos c
    have hfour := Char.utf8Size_le_four c
    rw [hmore] at hlongest
    by_contra hfar
    have hroom := hlongest (by omega)
    omega

/-! ## The way back to a character -/

/-- Whether a character of a text begins at a byte, or the text ends there. -/
def isBoundary (text : String) (byte : Nat) : Bool := String.Pos.Raw.isValid text ⟨byte⟩

/-- The first boundary on the way back from a byte.  There is none if the way leads past the first
byte. -/
def walkBack? (text : String) : Nat → Option Nat
  | 0 => if isBoundary text 0 then some 0 else none
  | byte + 1 => if isBoundary text (byte + 1) then some (byte + 1) else walkBack? text byte

/-- What stands before a byte, if this is a text. -/
def before? (text : String) (byte : Nat) : Option String :=
  String.fromUTF8? (text.toUTF8.extract 0 byte)

/-- A name of at most 63 bytes: a longer one is cut on the way back from the byte that leaves room
for the tag. -/
def shortened? (name : String) : Option String :=
  if name.utf8ByteSize ≤ 63 then some name
  else do
    let byte ← walkBack? name 54
    let front ← before? name byte
    some (front ++ "_" ++ tag name)

theorem isBoundary_iff {byte : Nat} :
    isBoundary text byte = true ↔
      ∃ front rest, text = front ++ rest ∧ front.utf8ByteSize = byte := by
  rw [isBoundary, String.Pos.Raw.isValid_eq_true_iff, String.Pos.Raw.isValid_iff_exists_append]
  constructor
  · rintro ⟨front, rest, htext, hbyte⟩
    exact ⟨front, rest, htext, (congrArg (·.byteIdx) hbyte).symm⟩
  · rintro ⟨front, rest, htext, rfl⟩
    exact ⟨front, rest, htext, rfl⟩

/-- The way back ends where the longest front does that there is room for. -/
theorem walkBack?_eq_some (h : IsLongestFront bytes text front) :
    walkBack? text bytes = some front.utf8ByteSize := by
  obtain ⟨rest, htext⟩ := h.begins
  have hend : isBoundary text front.utf8ByteSize = true :=
    isBoundary_iff.2 ⟨front, rest, htext, rfl⟩
  induction bytes with
  | zero =>
    have hzero : front.utf8ByteSize = 0 := Nat.le_zero.1 h.size
    rw [hzero] at hend ⊢
    rw [walkBack?, if_pos hend]
  | succ byte ih =>
    rw [walkBack?]
    by_cases hhere : isBoundary text (byte + 1) = true
    · obtain ⟨other, after, hother, hbyte⟩ := isBoundary_iff.1 hhere
      have hlongest := h.longest other after hother hbyte.le
      have hsize := h.size
      rw [if_pos hhere, show front.utf8ByteSize = byte + 1 by omega]
    · have hne : front.utf8ByteSize ≠ byte + 1 := fun hsame => hhere (hsame ▸ hend)
      have hsize := h.size
      rw [if_neg hhere]
      refine ih ⟨h.begins, by omega, fun other after hother hbyte => ?_⟩
      exact h.longest other after hother (by omega)

theorem before?_of_begins {rest : String} (htext : text = front ++ rest) :
    before? text front.utf8ByteSize = some front := by
  have hbytes : text.toUTF8.extract 0 front.utf8ByteSize = front.toByteArray := by
    rw [htext, String.toUTF8_eq_toByteArray, String.toByteArray_append]
    exact ByteArray.extract_append_eq_left rfl
  rw [before?, hbytes, String.fromUTF8?, dif_pos front.isValidUTF8]
  rfl

theorem fitted_of_le (h : name.utf8ByteSize ≤ 63) : fitted name = name := if_pos h

theorem exists_fitted_of_lt (h : 63 < name.utf8ByteSize) :
    ∃ front, IsLongestFront 54 name front ∧ fitted name = front ++ "_" ++ tag name :=
  ⟨_, isLongestFront_keep 54 name, if_neg (Nat.not_le.2 h)⟩

/-- The way back finds where to cut, and this gives the name that is made of whole characters. -/
theorem shortened?_eq (name : String) : shortened? name = some (fitted name) := by
  by_cases hsize : name.utf8ByteSize ≤ 63
  · rw [shortened?, if_pos hsize, fitted_of_le hsize]
  · obtain ⟨front, hfront, hfitted⟩ := exists_fitted_of_lt (Nat.not_le.1 hsize)
    obtain ⟨rest, hrest⟩ := hfront.begins
    rw [shortened?, if_neg hsize, walkBack?_eq_some hfront, Option.bind_eq_bind, Option.bind_some,
      before?_of_begins hrest, Option.bind_eq_bind, Option.bind_some, hfitted]

/-! ## Names that are shortened -/

theorem size_tag (name : String) : (tag name).utf8ByteSize = 8 := by
  rw [← String.utf8Len_toList, Digest.utf8Len_eq_length fun c hc => mem_tag hc, length_tag]

/-- What an identifier has of a full name: all of it, if it is no longer than 63 bytes; else as much
of its front as 54 bytes have room for, an underscore and a tag of eight digits. -/
structure Shortens (full name : String) : Prop where
  size : name.utf8ByteSize ≤ 63
  whole : full.utf8ByteSize ≤ 63 → name = full
  cut : 63 < full.utf8ByteSize → ∃ front, IsLongestFront 54 full front ∧
    50 < front.utf8ByteSize ∧ name = front ++ "_" ++ tag full
  tag : (tag full).toList.length = 8 ∧ ∀ c ∈ (tag full).toList, c ∈ Digest.hexDigits

theorem shortens_fitted (full : String) : Shortens full (fitted full) := by
  have htag : (tag full).toList.length = 8 ∧ ∀ c ∈ (tag full).toList, c ∈ Digest.hexDigits :=
    ⟨length_tag full, fun _ hc => mem_tag hc⟩
  by_cases hsize : full.utf8ByteSize ≤ 63
  · rw [fitted_of_le hsize]
    exact ⟨hsize, fun _ => rfl, fun hlong => absurd hsize (Nat.not_le.2 hlong), htag⟩
  · obtain ⟨front, hfront, hfitted⟩ := exists_fitted_of_lt (Nat.not_le.1 hsize)
    have hkept := hfront.size
    have hlong := hfront.lt_size_add (by omega)
    refine ⟨?_, fun hshort => absurd hshort hsize, fun _ => ⟨front, hfront, ?_, hfitted⟩, htag⟩
    · rw [hfitted, String.utf8ByteSize_append, String.utf8ByteSize_append, size_tag]
      show _ + 1 + 8 ≤ 63
      omega
    · omega

/-- The way back that finds the name of an index comes to an end, the name fits an identifier and
is as much of the full name as there is room for; and different columns of one table that are
indexed have indexes of different names, however many of the two are cut. -/
theorem indexNames_fit (table : String) :
    (∀ column kind,
      shortened? (fullName table column kind) = some (indexName table column kind) ∧
      Shortens (fullName table column kind) (indexName table column kind)) ∧
    ∀ (c c' : Column) (kind kind' : String), Postgres.indexKind c.type = some kind →
      Postgres.indexKind c'.type = some kind' → c.name ≠ c'.name →
      (fullName table c.name kind ≠ fullName table c'.name kind' →
        tag (fullName table c.name kind) ≠ tag (fullName table c'.name kind')) →
      indexName table c.name kind ≠ indexName table c'.name kind' := by
  refine ⟨fun column kind => ⟨shortened?_eq _, shortens_fitted _⟩, ?_⟩
  intro c c' kind kind' hkind hkind' hnames htags hsame
  have hjoint := ((indexName_eq_iff (kind_cases hkind) (kind_cases hkind') htags).1 hsame).2
  have hchars := congrArg String.toList hjoint
  simp only [jointText, String.toList_append, List.append_assoc] at hchars
  exact hnames (String.toList_inj.1 (List.append_cancel_left (List.append_cancel_left hchars)))

/-- A table with a key, and with a time whose index would have too long a name, which there is no
room for up to the middle of a character. -/
def visits : String := "shop__kundenbesuche_heute"

theorem indexNames_fit_visits :
    shortened? (fullName visits "zeitpunkt_der_ersten_prüfung" "date") =
      some (indexName visits "zeitpunkt_der_ersten_prüfung" "date") ∧
    (indexName visits "zeitpunkt_der_ersten_prüfung" "date").utf8ByteSize = 62 ∧
    indexName visits "id" "num" = "idx_shop__kundenbesuche_heute_id_num" ∧
    indexName visits "zeitpunkt_der_ersten_prüfung" "date" ≠ indexName visits "id" "num" := by
  obtain ⟨hname, hapart⟩ := indexNames_fit visits
  obtain ⟨hfound, hshort⟩ := hname "zeitpunkt_der_ersten_prüfung" "date"
  refine ⟨hfound, ?_, (hname "id" "num").2.whole (by decide +kernel), ?_⟩
  · obtain ⟨front, hfront, _, htagged⟩ := hshort.cut (by decide +kernel)
    have hend : walkBack? (fullName visits "zeitpunkt_der_ersten_prüfung" "date") 54 = some 53 := by
      decide +kernel
    rw [walkBack?_eq_some hfront] at hend
    rw [htagged, String.utf8ByteSize_append, String.utf8ByteSize_append, size_tag,
      Option.some.inj hend]
    rfl
  · exact hapart ⟨"zeitpunkt_der_ersten_prüfung", .timestamp, true, false⟩
      ⟨"id", .integer, false, false⟩ "date" "num" rfl rfl (by decide) fun _ => by decide +kernel

end Replica
end Granary
