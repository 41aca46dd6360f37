import CanStream.Proofs.ByteQueue.Contents
import CanStream.Proofs.Frame.Block
import CanStream.Proofs.Socket.After
import CanStream.Proofs.Socket.Fields
import CanStream.Protocol.Raw

/-!
# Frames are taken whole

The reader looks at a header to tell how large the block at the head of the buffer is, and decodes
the block once it is taken out. Both find the same size in the sentinels, whatever these are. A
block that was taken out is therefore never too short to be decoded, and one that is not all there
yet is left where it is.
-/

namespace CanStream.Raw

open Socket

variable {P : Protocol} {s : Socket P}

/-- The header at the head of the buffer tells the size of the block, in however many chunks it
lies. -/
theorem frameSize_peek (q : ByteQueue) :
    frameSize (q.peek headerSize) = Frame.blockSize q.toList := by
  rw [frameSize, ByteQueue.peek_eq, Frame.sizeAt?_take (Nat.le_refl _), Frame.blockSize_eq]

/-- A whole block at the head of the buffer is taken out and decoded. -/
theorem readFrame_of_whole (counted : s.readBuffer.size = s.readBuffer.toList.length)
    (whole : Frame.blockSize s.readBuffer.toList ≤ s.readBuffer.toList.length) :
    ∃ f s' on,
      Frame.ofKernel? (s.readBuffer.toList.take (Frame.blockSize s.readBuffer.toList)) =
        some (f, Frame.blockSize s.readBuffer.toList) ∧
      readFrame s = some (.ok f, s') ∧ s'.handler = s.handler ∧
      s'.toConnection = { s.toConnection with
        readBuffer := (s.readBuffer.read (Frame.blockSize s.readBuffer.toList)).2
        wantsRead := on } := by
  obtain ⟨f, -, decoded⟩ := Frame.exists_ofKernel? whole
  have header := Frame.headerSize_le_blockSize s.readBuffer.toList
  have size := frameSize_peek s.readBuffer
  generalize Frame.blockSize s.readBuffer.toList = n at *
  have present : ¬((s.readBuffer.peek headerSize).length < headerSize ∨
      s.available < frameSize (s.readBuffer.peek headerSize)) := by
    rw [size, ByteQueue.length_peek counted, Connection.available, counted]
    omega
  have bytes : (s.readBuffer.read n).1 = s.readBuffer.toList.take n := ByteQueue.peek_eq _ _
  obtain ⟨on, resumed⟩ := Connection.exists_resumeReading
    { s.toConnection with readBuffer := (s.readBuffer.read n).2 }
  let taken := (s.change fun c =>
      { c with readBuffer := (s.readBuffer.read n).2 }.resumeReading).log
    (.taken (s.readBuffer.toList.take n))
  refine ⟨f, taken.log (.frameTaken f), on, decoded, ?_, rfl, resumed⟩
  rw [readFrame, get_bind_apply, if_neg present, size, takeOut, bind_assoc, get_bind_apply,
    bind_assoc, update_bind_apply, bind_assoc, record_bind_apply, pure_bind, bytes, decoded]
  rfl

/-- Less than a header, or than the block that it announces, stays where it is. -/
theorem readFrame_of_part (part : s.readBuffer.toList.length < headerSize ∨
    s.readBuffer.size < Frame.blockSize s.readBuffer.toList) :
    readFrame s = some (.error (.io (.plain .wouldBlock)), s) := by
  have absent : (s.readBuffer.peek headerSize).length < headerSize ∨
      s.available < frameSize (s.readBuffer.peek headerSize) := by
    rw [frameSize_peek, ByteQueue.peek_eq, List.length_take]
    exact part.imp_left fun short => by omega
  rw [readFrame, get_bind_apply, if_pos absent]
  rfl

/-- A frame is asked of a socket whose read buffer holds as many bytes as it counts, whatever they
are and in whatever chunks they lie. If the block at the head of the buffer is all there, the answer
is the frame of this block, which is of a known kind, and just the block is gone; nothing else
changes but that the socket may wait for data again. If it is not, the answer is that there is no
frame yet, and the socket stays as it is. -/
theorem readFrame_eq_frame_or_wouldBlock {bytes : List UInt8}
    (holds : s.readBuffer.toList = bytes) (counted : s.readBuffer.size = bytes.length) :
    (Frame.blockSize bytes ≤ bytes.length →
      ∃ f s', readFrame s = some (.ok f, s') ∧
        Frame.ofKernel? (bytes.take (Frame.blockSize bytes)) = some (f, Frame.blockSize bytes) ∧
        f.kind ≠ .unknown ∧
        s'.readBuffer.toList = bytes.drop (Frame.blockSize bytes) ∧
        s'.readBuffer.size = s'.readBuffer.toList.length ∧
        s'.toConnection = { s.toConnection with
          readBuffer := s'.readBuffer, wantsRead := s'.wantsRead }) ∧
    (bytes.length < Frame.blockSize bytes →
      readFrame s = some (.error (.io (.plain .wouldBlock)), s)) := by
  subst holds
  constructor
  · intro whole
    obtain ⟨f, s', on, decoded, taken, -, left⟩ := readFrame_of_whole counted whole
    have buffer : s'.readBuffer =
        (s.readBuffer.read (Frame.blockSize s.readBuffer.toList)).2 := by rw [left]
    have rest : s'.readBuffer.toList =
        s.readBuffer.toList.drop (Frame.blockSize s.readBuffer.toList) := by
      rw [buffer, ByteQueue.toList_read counted]
    have size : s'.readBuffer.size = s'.readBuffer.toList.length := by
      rw [rest, List.length_drop, buffer, ByteQueue.size_read counted, counted]
    refine ⟨f, s', taken, decoded, Frame.kind_ne_of_ofKernel? decoded, rest, size, ?_⟩
    rw [left]
  · intro part
    apply readFrame_of_part
    right
    rwa [counted]

/-- A socket with a flexible data rate frame in its read buffer, cut in two within the header, and
five bytes behind it. -/
def straddled : Socket protocol :=
  { Socket.initial (P := protocol) .initial .blank with
    readBuffer := ⟨[⟨[1, 0, 0, 0, 4, 0], 6⟩, ⟨64 :: 72 :: List.replicate 69 7, 71⟩], 77, 20⟩ }

theorem readFrame_eq_frame_or_wouldBlock_straddled :
    ∃ bytes f s', straddled.readBuffer.toList = bytes ∧
      straddled.readBuffer.size = bytes.length ∧ Frame.blockSize bytes = 72 ∧
      readFrame straddled = some (.ok f, s') ∧
      Frame.ofKernel? (bytes.take 72) = some (f, 72) ∧ f.kind ≠ .unknown ∧
      s'.readBuffer.toList = List.replicate 5 7 ∧
      readFrame s' = some (.error (.io (.plain .wouldBlock)), s') := by
  have holds : straddled.readBuffer.toList =
      [1, 0, 0, 0, 4, 0, 64, 72] ++ List.replicate 69 7 := rfl
  obtain ⟨f, s', taken, decoded, known, rest, size, -⟩ :=
    (readFrame_eq_frame_or_wouldBlock holds rfl).1 (by decide)
  have part := (readFrame_eq_frame_or_wouldBlock rest (by rw [size, rest])).2 (by decide)
  exact ⟨_, f, s', holds, rfl, rfl, taken, decoded, known, rest, part⟩

end CanStream.Raw
