import Mathlib
import DocSieve.Files.Window
import DocSieve.Proofs.Generator.Window

/-!
# Windows that are read in full

A window that ends within a file splits the file in three, and reading it gives the text
of the middle part (`FileTree.load_file`). The windows that a workload draws on a file
of the size that it was told are such windows, so not a byte less is read than was asked
for (`Workload.window_read_whole`).

Key theorems: `windowBytes_split`, `FileTree.load_file`, `Workload.window_read_whole`.
-/

namespace DocSieve

theorem windowBytes_split {bytes : List UInt8} {offset size : Nat}
    (within : offset + size ≤ bytes.length) :
    ∃ before after, bytes = before ++ windowBytes bytes offset size ++ after ∧
      before.length = offset ∧ (windowBytes bytes offset size).length = size := by
  refine ⟨bytes.take offset, (bytes.drop offset).drop size, ?_, ?_, ?_⟩
  · unfold windowBytes
    rw [List.append_assoc, List.take_append_drop, List.take_append_drop]
  · rw [List.length_take]
    omega
  · unfold windowBytes
    rw [List.length_take, List.length_drop]
    omega

/-- A file is read at every offset that it can have. -/
theorem FileTree.load_file {tree : FileTree} {request : Request} {bytes : List UInt8}
    (file : tree.find request.path = .ok (.file bytes))
    (offset : request.offset.toNat ≤ maxOffset) (size : request.size.toNat ≤ maxAllocation) :
    tree.load request = .ok ⟨request.id,
      decodeLossy (windowBytes bytes request.offset.toNat request.size.toNat)⟩ := by
  unfold load
  rw [file]
  dsimp only [bind, Except.bind]
  rw [if_neg (Nat.not_lt.mpr offset), if_neg (Nat.not_lt.mpr size)]
  rfl

/-- **Every drawn window is read in full.** The file holds as many bytes as the workload
was told, any number that a file can hold. Whatever the bounds of the sizes are, whatever
is drawn and for whichever request, the file is read, and the document has the name of
the request and the text of exactly as many bytes as were asked for, those from the
offset on; they are none only if the file is empty. -/
theorem Workload.window_read_whole {tree : FileTree} {w : Workload} {bytes : List UInt8}
    (file : tree.find w.path = .ok (.file bytes)) (told : bytes.length = w.fileSize.toNat)
    (fits : bytes.length ≤ maxOffset) (words : WordStream) (position : Nat) (counter : UInt64) :
    ∃ request before window after, (w.request words position counter).1 = request ∧
      bytes = before ++ window ++ after ∧ before.length = request.offset.toNat ∧
      window.length = request.size.toNat ∧
      tree.load request = .ok ⟨request.id, decodeLossy window⟩ ∧
      (bytes ≠ [] → 1 ≤ request.size.toNat) := by
  obtain ⟨least, -, within⟩ := w.request_within words position counter
  rw [← told] at within
  obtain ⟨before, after, parts, offset, size⟩ := windowBytes_split within
  have same : maxAllocation = maxOffset := rfl
  refine ⟨_, before, _, after, rfl, parts, offset, size,
    FileTree.load_file file (by omega) (by omega), fun holds => ?_⟩
  have pos := w.smallest_pos (told ▸ List.length_pos_iff.mpr holds)
  omega

/-- A file in a directory. -/
def nestedFiles : FileTree := .directory [("d", .directory [("f", .file [0x61, 0xc3, 0xa9, 0x62])])]

/-- Windows of at least three and at most two of its bytes. -/
def crossedWorkload : Workload := ⟨3, 2, "doc", 1000, "d/f", 4, none⟩

theorem window_read_whole_crossed :
    ∃ request before window after,
      (crossedWorkload.request (fun _ => 0xffffffffffffffff) 0 7).1 = request ∧
      [0x61, 0xc3, 0xa9, 0x62] = before ++ window ++ after ∧ before.length = 1 ∧
      window.length = 3 ∧ nestedFiles.load request = .ok ⟨"doc-7", decodeLossy window⟩ := by
  obtain ⟨request, before, window, after, drawn, parts, offset, size, loaded, -⟩ :=
    Workload.window_read_whole
      (show nestedFiles.find crossedWorkload.path = .ok (.file [0x61, 0xc3, 0xa9, 0x62]) by cbv)
      rfl (by decide) (fun _ => 0xffffffffffffffff) 0 7
  obtain rfl : request = ⟨"doc-7", "d/f", 1, 3⟩ := drawn.symm.trans (by decide +kernel)
  exact ⟨_, before, window, after, drawn, parts, offset, size, loaded⟩

end DocSieve
