import DocStore.Proofs.Log.Resume

namespace DocStore.Log

open Writer (segmentName numberOf)

variable {files : Directory} {manifest : Manifest} {log : Writer} {newest count : Nat}
  {records batch : List Record}

/-- A log is open, and nothing has used the segments that begin after each of `count` batches. -/
structure Spare (files : Directory) (manifest : Manifest) (count : Nat) : Prop where
  continues : Continues files manifest 0 count
  unused : Unused files manifest count

/-- Unused segments are read as segments without records. -/
private theorem Arranged.clear {older : List SegmentInfo} {last : Nat} {maxSeq : UInt64}
    (arranged : Arranged files.content manifest older last maxSeq) (few : last + count ≤ 2 ^ 64) :
    Clear files manifest 0 count ∧ Unused files manifest count := by
  have upcoming (ahead : Nat) : manifest.upcoming ahead = segmentName (last + ahead) := by
    rw [Manifest.upcoming, arranged.current, Writer.numberOf_segmentName,
      Writer.segmentName_mod_add]
  have unused : Unused files manifest count := fun ahead positive within => by
    rw [upcoming]
    exact arranged.unused _ (by omega) (by omega)
  refine ⟨⟨⟨older, maxSeq, arranged.current ▸ arranged.segments, fun segment before => ?_⟩,
    fun ahead positive within segment member => ?_, fun ahead positive within => ?_,
    fun ahead positive within record inside => ?_⟩, unused⟩
  · rw [arranged.current]
    exact arranged.name_ne_current before
  · rw [upcoming]
    obtain ⟨number, positive', below, named⟩ := arranged.named member
    rw [named]
    intro same
    have := Writer.segmentName_inj positive' (by omega) (by omega) (by omega) same
    omega
  · rw [unused ahead positive within]
    exact .nil
  · rw [unused ahead positive within] at inside
    cases inside

theorem Ready.spare (ready : Ready files log newest records) (few : newest + count < 2 ^ 64) :
    Spare files log.manifest count := by
  obtain ⟨older, last, maxSeq, arranged⟩ := ready.holds.arranged
  have bounded := arranged.bounded
  have noted := ready.holds.noted
  obtain ⟨clear, unused⟩ : Clear files log.manifest 0 count ∧ Unused files log.manifest count :=
    arranged.clear (by omega)
  have named : IsFileName log.manifest.currentSegment :=
    arranged.current ▸ isFileName_segmentName last
  exact ⟨⟨⟨ready.written, ready.current⟩, named, clear, by omega⟩, unused⟩

namespace Spare

/-- A batch is written, and only its records are replayed behind those of before. -/
theorem keeps_writeBatch (spare : Spare files log.manifest (count + 1))
    (legible : ∀ record ∈ batch, record.Legible)
    {post : Directory → Except IoError Unit × Writer → Prop}
    (result : ∀ left next, Spare left next.manifest count →
      Extends files log.manifest batch left next.manifest → post left (.ok (), next)) :
    (log.writeBatch (batch.map fun record => (record.seq, record.encode))).Keeps (fun _ => True)
      post files := by
  refine spare.continues.keeps_writeBatch legible (Nat.le_refl 0) fun left next idle grown => ?_
  obtain ⟨nothing, unused⟩ := grown.unused spare.unused
  have extended := grown.extended
  rw [nothing, List.append_nil] at extended
  exact result left next ⟨grown.continues, unused⟩ extended

end Spare

end DocStore.Log
