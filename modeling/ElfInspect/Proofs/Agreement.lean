import ElfInspect.Proofs.Verdict

/-!
# Files that agree in places

A file is looked at in three places: its first 64 bytes, the section header table that these
place, and the name table that a record of it places. Two files with the same bytes in these
places have the same header, the same records and the same names.
-/

namespace ElfInspect

section Slices

variable {first second : Bytes} {start size : Nat}

lemma slice_zero (content : Bytes) (size : Nat) : slice content 0 size = content.take size := by
  rw [slice, List.drop_zero]

lemma slice_take {content : Bytes} {k : Nat} (h : start + size ≤ k) :
    slice (content.take k) start size = slice content start size := by
  rw [← slice_zero, slice_slice h, Nat.zero_add]

lemma slice_congr {k : Nat} (htake : first.take k = second.take k) (h : start + size ≤ k) :
    slice first start size = slice second start size := by
  rw [← slice_take h, htake, slice_take h]

end Slices

namespace Layout

variable {first second : Bytes}

/-! ### The header -/

section Front

variable (hfront : slice first 0 64 = slice second 0 64)

include hfront

lemma ident_congr : ident first = ident second := by
  have hfirst : ident (slice first 0 64) = ident first := ident_slice (by omega)
  have hsecond : ident (slice second 0 64) = ident second := ident_slice (by omega)
  rw [← hfirst, hfront, hsecond]

lemma getD_congr {i : Nat} (h : i < 16) : first.getD i 0 = second.getD i 0 := by
  rw [← getElem_ident i h, ← getElem_ident i h]
  simp only [ident_congr hfront]

lemma order_congr : order first = order second := by
  rw [order, order, getD_congr hfront (by omega)]

lemma header_congr : header first = header second := by
  rw [header, header, order_congr hfront, ← headerIn_slice, hfront, headerIn_slice]

lemma magic_congr : magic first = magic second := by
  rw [magic, magic, getD_congr hfront (by omega), getD_congr hfront (by omega),
    getD_congr hfront (by omega), getD_congr hfront (by omega)]

lemma identChecks_congr : identChecks first = identChecks second := by
  rw [identChecks, identChecks, magic_congr hfront, getD_congr hfront (by omega),
    getD_congr hfront (by omega)]

/-! ### The records -/

section Table

variable (htable : slice first (header first).shoff.toNat (64 * (header first).shnum.toNat) =
  slice second (header first).shoff.toNat (64 * (header first).shnum.toNat))

include htable

lemma record_congr {i : Nat} (h : i < (header first).shnum.toNat) :
    record first i = record second i := by
  have hinner : 64 * i + 64 ≤ 64 * (header first).shnum.toNat := by omega
  rw [record, record, ← header_congr hfront, ← order_congr hfront, ← recordAt_slice hinner,
    htable, recordAt_slice hinner]

lemma records_congr : records first = records second := by
  rw [records, records, ← header_congr hfront]
  apply List.map_congr_left
  intro i hi
  exact record_congr hfront htable (List.mem_range.mp hi)

/-! ### The names -/

variable (hindex : (header first).shstrndx.toNat < (header first).shnum.toNat)

include hindex

lemma nameRecord_congr : nameRecord first = nameRecord second := by
  rw [nameRecord, nameRecord, ← header_congr hfront]
  exact record_congr hfront htable hindex

lemma analysis_congr
    (hnames : slice first (nameRecord first).offset.toNat (nameRecord first).size.toNat =
      slice second (nameRecord first).offset.toNat (nameRecord first).size.toNat)
    (path : String) : analysis first path = analysis second path := by
  have htable' : nameTable first = nameTable second := by
    rw [nameTable, nameTable, ← nameRecord_congr hfront htable hindex, hnames]
  rw [analysis, analysis, htable', header_congr hfront, records_congr hfront htable]

end Table

end Front

end Layout

end ElfInspect
