import TableFile.Proofs.Machine.Page
import TableFile.Proofs.Page.Diagnosis

namespace TableFile

namespace Machine

/-- Bytes, and a position that may be past their end. -/
structure Source where
  content : Bytes
  position : Nat
deriving DecidableEq

namespace Source

def seek (source : Source) (position : Nat) : Source :=
  { source with position }

def read (source : Source) (limit : Nat) : Bytes × Source :=
  let data := source.content.window source.position limit
  (data, source.seek (source.position + data.length))

/-- The source is left where it is for page 0, and else behind what there is of the page. -/
def readPage (source : Source) (pageSize : Nat) (number : UInt32) : Machine Page × Source :=
  if number = 0 then (failed .pageZero, source)
  else
    match sub number.toNat 1 >>= fun before ↦ mul before pageSize with
    | done start =>
      let (data, source) := (source.seek start).read pageSize
      if data.length = pageSize then (decodePage data number, source)
      else (failed (.cutShort number pageSize data.length), source)
    | failed e => (failed e, source)
    | stuck => (stuck, source)

def afterReads (source : Source) : (reads : List (Nat × UInt32)) → Source
  | [] => source
  | (pageSize, number) :: reads => (source.readPage pageSize number).2.afterReads reads

theorem content_readPage (source : Source) (pageSize : Nat) (number : UInt32) :
    (source.readPage pageSize number).2.content = source.content := by
  unfold readPage
  split
  · rfl
  · split
    · dsimp only
      split <;> rfl
    · rfl
    · rfl

theorem content_afterReads (source : Source) (reads : List (Nat × UInt32)) :
    (source.afterReads reads).content = source.content := by
  induction reads generalizing source with
  | nil => rfl
  | cons read reads ih => rw [afterReads, ih, content_readPage]

theorem start_lt {pageSize : Nat} (h : pageSize ≤ 65536) (number : UInt32) :
    (number.toNat - 1) * pageSize < 2 ^ 48 := by
  have hnumber := number.toNat_lt
  calc (number.toNat - 1) * pageSize ≤ (number.toNat - 1) * 65536 := Nat.mul_le_mul_left _ h
    _ < 2 ^ 48 := by omega

theorem readPage_eq (source : Source) {pageSize : Nat} (h : pageSize ≤ 65536) (number : UInt32) :
    (source.readPage pageSize number).1 =
      ofExcept (Page.ofFile source.content pageSize number) := by
  by_cases hzero : number = 0
  · rw [readPage, Page.ofFile, if_pos hzero, if_pos hzero]
    rfl
  · have hstart : (number.toNat - 1) * pageSize < 2 ^ 63 :=
      (start_lt h number).trans (by decide)
    rw [readPage, Page.ofFile, if_neg hzero, if_neg hzero, sub_eq (Page.one_le_toNat hzero),
      done_bind, mul_eq_of_lt hstart]
    dsimp only [read, seek, Bytes.window]
    split
    · exact decodePage_eq _ number
    · rfl

theorem stop_le_start {number number' : UInt32} (hzero : number ≠ 0) (h : number < number')
    (pageSize : Nat) :
    (number.toNat - 1) * pageSize + pageSize ≤ (number'.toNat - 1) * pageSize := by
  have hlt := UInt32.lt_iff_toNat_lt.mp h
  rw [Page.stop_eq hzero]
  exact Nat.mul_le_mul_right _ (Nat.le_sub_one_of_lt hlt)

/-- A page is read from as many bytes as pages have, behind those of the pages with lower numbers
and in front of those with higher ones, and only if the file has all of them. From where the source
is, and so from what has been read of it before, nothing follows for the page. -/
theorem readPage_window (file : Bytes) {pageSize : Nat} (h : pageSize ≤ 65536) (number : UInt32) :
    let start := (number.toNat - 1) * pageSize
    (number = 0 → Page.ofFile file pageSize number = .error .pageZero) ∧
    (number ≠ 0 → start < 2 ^ 48 ∧
      (start + pageSize ≤ file.length → Page.ofFile file pageSize number =
        Page.decode (file.window start pageSize) number) ∧
      (file.length < start + pageSize → Page.ofFile file pageSize number =
        .error (.cutShort number pageSize (file.length - start))) ∧
      ∀ number', number < number' → start + pageSize ≤ (number'.toNat - 1) * pageSize) ∧
    ∀ position reads, (((mk file position).afterReads reads).readPage pageSize number).1 =
      ofExcept (Page.ofFile file pageSize number) := by
  intro start
  refine ⟨fun hzero ↦ ?_, fun hzero ↦ ⟨start_lt h number, fun hinside ↦ ?_, fun hshort ↦ ?_,
    fun number' hlt ↦ stop_le_start hzero hlt pageSize⟩, fun position reads ↦ ?_⟩
  · rw [Page.ofFile, if_pos hzero]
  · rw [Page.stop_eq hzero] at hinside
    exact Page.ofFile_eq_decode hzero hinside
  · have hlength : (file.window start pageSize).length = file.length - start := by
      rw [Bytes.window, List.length_take, List.length_drop]
      omega
    rw [Page.stop_eq hzero] at hshort
    rw [Page.ofFile_eq_error hzero (Nat.not_le.mpr hshort), ← hlength]
    rfl
  · rw [readPage_eq _ h, content_afterReads]

def twoPages : Bytes :=
  .replicate 512 0 ++ ([0x0D, 0, 0, 0, 0, 2, 0, 0] ++ .replicate 504 0) ++ [1, 2, 3]

theorem readPage_window_twoPages :
    512 ≤ 65536 ∧
    (((mk twoPages 9999).afterReads [(512, 3), (512, 0), (512, 7)]).readPage 512 2).1 =
      done ⟨2, ⟨.tableLeaf, 0, 0, 512, 0, none⟩, [], twoPages.window 512 512⟩ ∧
    (((mk twoPages 0).afterReads [(512, 2)]).readPage 512 3).1 = failed (.cutShort 3 512 3) ∧
    (((mk twoPages 1027).afterReads []).readPage 512 0).1 = failed .pageZero := by
  have hsize : 512 ≤ 65536 := by decide
  obtain ⟨-, htwo, hread⟩ := readPage_window twoPages hsize 2
  obtain ⟨-, hthree, hread'⟩ := readPage_window twoPages hsize 3
  obtain ⟨hzero, -, hread''⟩ := readPage_window twoPages hsize 0
  have hlength : twoPages.length = 1027 := by decide +kernel
  have hdecode : Page.decode (twoPages.window 512 512) 2 =
      .ok ⟨2, ⟨.tableLeaf, 0, 0, 512, 0, none⟩, [], twoPages.window 512 512⟩ := by decide +kernel
  refine ⟨hsize, ?_, ?_, ?_⟩
  · have hinside : ((2 : UInt32).toNat - 1) * 512 + 512 ≤ twoPages.length := by
      rw [hlength]
      decide
    rw [hread, (htwo (by decide)).2.1 hinside]
    exact congrArg ofExcept hdecode
  · have hshort : twoPages.length < ((3 : UInt32).toNat - 1) * 512 + 512 := by
      rw [hlength]
      decide
    rw [hread', (hthree (by decide)).2.2.1 hshort, hlength]
    rfl
  · rw [hread'', hzero rfl]
    rfl

end Source

end Machine

end TableFile
