import Astron.Util.Datagram

set_option autoImplicit false

/- The datagram framing of `NetworkClient` (src/net/NetworkClient.cpp). A frame is a
`dgsize_t` length, low byte first, followed by that many payload bytes. The send side
(`flush_send_queue`) writes one frame per queued datagram; the receive side cuts frames out of
`m_data_buf` (`defragment_input`), or hands a `recv` chunk over directly when it is exactly one
frame (the fast path of `process_datagram`). The length field is read through a
`reinterpret_cast`, so the host is taken to be little-endian. -/

namespace Astron.Framing

/-- The `dgsize_t` whose two bytes, low first, start a frame. -/
def readDgsize (lo hi : UInt8) : Nat := lo.toNat + 256 * hi.toNat

/-- `swap_le(dg->size())` copied out as a `dgsize_t`: the two low bytes of the size. -/
def dgsizeBytes (size : Nat) : Bytes := [UInt8.ofNat size, UInt8.ofNat (size / 256)]

/-- The buffer `flush_send_queue` fills from `m_send_queue`: each datagram's length, then its
bytes, in queue order. -/
def sendBuffer : List Bytes → Bytes
  | [] => []
  | dg :: queue => dgsizeBytes dg.length ++ dg ++ sendBuffer queue

@[simp] theorem sendBuffer_nil : sendBuffer [] = [] := rfl

@[simp] theorem sendBuffer_cons (dg : Bytes) (queue : List Bytes) :
    sendBuffer (dg :: queue) = dgsizeBytes dg.length ++ dg ++ sendBuffer queue := rfl

theorem readDgsize_dgsizeBytes {size : Nat} (fits : size < 65536) :
    readDgsize (UInt8.ofNat size) (UInt8.ofNat (size / 256)) = size := by
  simp only [readDgsize, UInt8.ofNat, UInt8.toNat, BitVec.toNat_ofNat]
  omega

theorem dgsizeBytes_readDgsize (lo hi : UInt8) : dgsizeBytes (readDgsize lo hi) = [lo, hi] := by
  have low := lo.toNat_lt_size
  have high := hi.toNat_lt_size
  simp only [dgsizeBytes, List.cons.injEq, and_true]
  constructor <;> apply UInt8.toNat.inj <;>
    simp only [readDgsize, UInt8.ofNat, UInt8.toNat, BitVec.toNat_ofNat] at * <;> omega

/-- What one call of `defragment_input` leaves behind: the rest of `m_data_buf`, the datagrams
handed to `receive_datagram` in order, and whether it called `disconnect(kErrProto)`. The same
record describes the read side after a whole sequence of `recv` chunks. -/
structure Defrag where
  dataBuf : Bytes
  received : List Bytes
  protoError : Bool
deriving DecidableEq, Repr

/-- `NetworkClient::defragment_input`. The loop runs while more than `sizeof(dgsize_t)` bytes are
buffered; a zero length field is a protocol error and leaves the buffer as it is. The second
`total_consumed > m_data_buf.size()` test cannot fire after the first one and is left out. -/
def defragmentInput (dataBuf : Bytes) : Defrag :=
  match dataBuf with
  | lo :: hi :: b :: rest =>
    if readDgsize lo hi = 0 then ⟨dataBuf, [], true⟩
    else if readDgsize lo hi ≤ (b :: rest).length then
      let next := defragmentInput ((b :: rest).drop (readDgsize lo hi))
      { next with received := (b :: rest).take (readDgsize lo hi) :: next.received }
    else ⟨dataBuf, [], false⟩
  | _ => ⟨dataBuf, [], false⟩
termination_by dataBuf.length
decreasing_by simp_wf; omega

/-- Continue from `d` once `chunk` has been appended to its buffer. -/
def Defrag.resume (d : Defrag) (chunk : Bytes) : Defrag :=
  let next := defragmentInput (d.dataBuf ++ chunk)
  ⟨next.dataBuf, d.received ++ next.received, d.protoError || next.protoError⟩

/-- `NetworkClient::process_datagram` on one `recv` chunk, given `m_data_buf`: with an empty
buffer, a chunk whose length field equals the number of bytes after it is delivered directly;
otherwise the chunk is appended and `defragment_input` runs. -/
def processDatagram (dataBuf chunk : Bytes) : Defrag :=
  match dataBuf, chunk with
  | [], lo :: hi :: payload =>
    if readDgsize lo hi = payload.length then ⟨[], [payload], false⟩
    else defragmentInput chunk
  | _, _ => defragmentInput (dataBuf ++ chunk)

/-- One more `recv` chunk through `process_datagram`, on top of everything before it. -/
def feed (r : Defrag) (chunk : Bytes) : Defrag :=
  let step := processDatagram r.dataBuf chunk
  ⟨step.dataBuf, r.received ++ step.received, r.protoError || step.protoError⟩

/-- The read side after a sequence of `recv` chunks, from an empty `m_data_buf`. -/
def readChunks (chunks : List Bytes) : Defrag :=
  chunks.foldl feed ⟨[], [], false⟩

/-- The frames of a byte stream as the framing is specified: the payloads of its complete
frames in order, up to the first length field of zero, and whether such a field was received. -/
def streamFrames (stream : Bytes) : List Bytes × Bool :=
  match stream with
  | lo :: hi :: rest =>
    if readDgsize lo hi = 0 then ([], true)
    else if readDgsize lo hi ≤ rest.length then
      let next := streamFrames (rest.drop (readDgsize lo hi))
      (rest.take (readDgsize lo hi) :: next.1, next.2)
    else ([], false)
  | _ => ([], false)
termination_by stream.length

/-- A concatenation of frames whose length fields are not zero. -/
inductive WellFramed : Bytes → Prop
  | nil : WellFramed []
  | frame (lo hi : UInt8) (payload rest : Bytes) (nonzero : readDgsize lo hi ≠ 0)
      (length : payload.length = readDgsize lo hi) (tail : WellFramed rest) :
      WellFramed (lo :: hi :: (payload ++ rest))

theorem defragmentInput_cons (lo hi : UInt8) {rest : Bytes} (nonempty : rest ≠ []) :
    defragmentInput (lo :: hi :: rest) =
      if readDgsize lo hi = 0 then ⟨lo :: hi :: rest, [], true⟩
      else if readDgsize lo hi ≤ rest.length then
        { defragmentInput (rest.drop (readDgsize lo hi)) with
          received := rest.take (readDgsize lo hi) ::
            (defragmentInput (rest.drop (readDgsize lo hi))).received }
      else ⟨lo :: hi :: rest, [], false⟩ := by
  obtain ⟨b, more, rfl⟩ := List.exists_cons_of_ne_nil nonempty
  rw [defragmentInput]

theorem defragmentInput_short {dataBuf : Bytes} (short : dataBuf.length ≤ 2) :
    defragmentInput dataBuf = ⟨dataBuf, [], false⟩ := by
  match dataBuf, short with
  | [], _ | [_], _ | [_, _], _ => rw [defragmentInput]; simp

theorem length_le_two_of_not_long {x : Bytes}
    (notLong : ∀ (lo hi b : UInt8) (more : Bytes), x = lo :: hi :: b :: more → False) :
    x.length ≤ 2 := by
  match x, notLong with
  | [], _ | [_], _ | [_, _], _ => simp
  | _ :: _ :: _ :: _, h => exact (h _ _ _ _ rfl).elim

theorem defragmentInput_take {lo hi : UInt8} {rest : Bytes} (nonzero : readDgsize lo hi ≠ 0)
    (enough : readDgsize lo hi ≤ rest.length) :
    defragmentInput (lo :: hi :: rest) =
      { defragmentInput (rest.drop (readDgsize lo hi)) with
        received := rest.take (readDgsize lo hi) ::
          (defragmentInput (rest.drop (readDgsize lo hi))).received } := by
  rw [defragmentInput_cons lo hi (List.ne_nil_of_length_pos (by omega)), if_neg nonzero,
    if_pos enough]

theorem defragmentInput_frame (dg rest : Bytes) (nonempty : 0 < dg.length)
    (fits : dg.length < 65536) :
    defragmentInput (dgsizeBytes dg.length ++ dg ++ rest) =
      { defragmentInput rest with received := dg :: (defragmentInput rest).received } := by
  have size := readDgsize_dgsizeBytes fits
  simp only [dgsizeBytes, List.cons_append, List.nil_append, List.append_assoc]
  rw [defragmentInput_take (by omega) (by simp only [List.length_append]; omega), size,
    List.take_left, List.drop_left]

theorem defragmentInput_append (a c : Bytes) :
    defragmentInput (a ++ c) = (defragmentInput a).resume c := by
  induction a using defragmentInput.induct with
  | case1 lo hi b more zero =>
    rw [defragmentInput_cons lo hi (List.cons_ne_nil b more), if_pos zero]
    simp only [Defrag.resume, List.cons_append, defragmentInput_cons lo hi
      (List.cons_ne_nil b (more ++ c)), zero, if_true, List.nil_append, Bool.or_self]
  | case2 lo hi b more nonzero enough ih =>
    rw [defragmentInput_take nonzero enough]
    simp only [List.cons_append] at ih ⊢
    rw [← List.cons_append, defragmentInput_take nonzero
      (by simp only [List.length_append]; omega), List.take_append_of_le_length enough,
      List.drop_append_of_le_length enough, ih]
    rfl
  | case3 lo hi b more nonzero short =>
    rw [defragmentInput_cons lo hi (List.cons_ne_nil b more), if_neg nonzero, if_neg short]
    simp only [Defrag.resume, List.nil_append, Bool.false_or]
  | case4 x notLong =>
    rw [defragmentInput_short (length_le_two_of_not_long notLong)]
    simp only [Defrag.resume, List.nil_append, Bool.false_or]

theorem defragmentInput_dataBuf_of_protoError {dataBuf : Bytes}
    (failed : (defragmentInput dataBuf).protoError = true) :
    (defragmentInput dataBuf).dataBuf ≠ [] := by
  induction dataBuf using defragmentInput.induct with
  | case1 lo hi b more zero =>
    rw [defragmentInput_cons lo hi (List.cons_ne_nil b more), if_pos zero]
    exact List.cons_ne_nil lo _
  | case2 lo hi b more nonzero enough ih =>
    rw [defragmentInput_take nonzero enough] at failed ⊢
    exact ih failed
  | case3 lo hi b more nonzero short =>
    rw [defragmentInput_cons lo hi (List.cons_ne_nil b more), if_neg nonzero, if_neg short]
      at failed
    cases failed
  | case4 x notLong =>
    rw [defragmentInput_short (length_le_two_of_not_long notLong)] at failed
    cases failed

theorem defragmentInput_sendBuffer (queue : List Bytes)
    (sizes : ∀ dg ∈ queue, 1 ≤ dg.length ∧ dg.length ≤ 65535) :
    defragmentInput (sendBuffer queue) = ⟨[], queue, false⟩ := by
  induction queue with
  | nil => exact defragmentInput_short (by simp)
  | cons dg queue ih =>
    obtain ⟨nonempty, fits⟩ := sizes dg (List.mem_cons_self dg queue)
    rw [sendBuffer_cons, defragmentInput_frame dg _ nonempty (by omega),
      ih fun d mem => sizes d (List.mem_cons_of_mem dg mem)]

theorem sendBuffer_defragmentInput {stream : Bytes} (framed : WellFramed stream) :
    sendBuffer (defragmentInput stream).received = stream := by
  induction framed with
  | nil => rw [defragmentInput_short (by simp)]; rfl
  | frame lo hi payload rest nonzero length tail ih =>
    rw [defragmentInput_take nonzero (by simp only [List.length_append]; omega),
      List.take_left' length, List.drop_left' length, sendBuffer_cons, ih, length,
      dgsizeBytes_readDgsize]
    rfl

theorem framing_round_trip :
    (∀ queue : List Bytes, (∀ dg ∈ queue, 1 ≤ dg.length ∧ dg.length ≤ 65535) →
      defragmentInput (sendBuffer queue) = ⟨[], queue, false⟩) ∧
    (∀ stream : Bytes, WellFramed stream →
      sendBuffer (defragmentInput stream).received = stream) :=
  ⟨defragmentInput_sendBuffer, fun _ framed => sendBuffer_defragmentInput framed⟩

theorem processDatagram_eq (dataBuf chunk : Bytes)
    (notLoneZero : ¬ (dataBuf = [] ∧ ∃ lo hi, chunk = [lo, hi] ∧ readDgsize lo hi = 0)) :
    processDatagram dataBuf chunk = defragmentInput (dataBuf ++ chunk) := by
  match dataBuf, chunk with
  | [], lo :: hi :: payload =>
    simp only [processDatagram, List.nil_append]
    split
    · rename_i whole
      have nonempty : payload ≠ [] := by
        rintro rfl
        exact notLoneZero ⟨rfl, lo, hi, rfl, whole⟩
      have nonzero : readDgsize lo hi ≠ 0 := by
        rw [whole]
        exact List.length_pos.mpr nonempty |>.ne'
      rw [defragmentInput_take nonzero whole.le, List.take_of_length_le whole.ge,
        List.drop_of_length_le whole.ge, defragmentInput_short (by simp)]
    · rfl
  | [], [] | [], [_] | _ :: _, _ => rfl

theorem feed_eq_resume (r : Defrag) (chunk : Bytes)
    (notLoneZero : ¬ (r.dataBuf = [] ∧ ∃ lo hi, chunk = [lo, hi] ∧ readDgsize lo hi = 0)) :
    feed r chunk = r.resume chunk := by
  simp only [feed, Defrag.resume, processDatagram_eq r.dataBuf chunk notLoneZero]

theorem streamFrames_cons (lo hi : UInt8) (rest : Bytes) :
    streamFrames (lo :: hi :: rest) =
      if readDgsize lo hi = 0 then ([], true)
      else if readDgsize lo hi ≤ rest.length then
        ((rest.take (readDgsize lo hi)) :: (streamFrames (rest.drop (readDgsize lo hi))).1,
          (streamFrames (rest.drop (readDgsize lo hi))).2)
      else ([], false) := by
  rw [streamFrames]

theorem streamFrames_short {stream : Bytes} (short : stream.length ≤ 1) :
    streamFrames stream = ([], false) := by
  match stream, short with
  | [], _ | [_], _ => rw [streamFrames]; simp

theorem defragmentInput_of_streamFrames {stream : Bytes} (noZero : (streamFrames stream).2 = false) :
    (defragmentInput stream).received = (streamFrames stream).1 ∧
      (defragmentInput stream).protoError = false := by
  induction stream using defragmentInput.induct with
  | case1 lo hi b more zero =>
    rw [streamFrames_cons, if_pos zero] at noZero
    cases noZero
  | case2 lo hi b more nonzero enough ih =>
    rw [streamFrames_cons, if_neg nonzero, if_pos enough] at noZero ⊢
    rw [defragmentInput_take nonzero enough]
    exact ⟨congrArg _ (ih noZero).1, (ih noZero).2⟩
  | case3 lo hi b more nonzero short =>
    rw [defragmentInput_cons lo hi (List.cons_ne_nil b more), if_neg nonzero, if_neg short,
      streamFrames_cons, if_neg nonzero, if_neg short]
    exact ⟨rfl, rfl⟩
  | case4 x notLong =>
    rw [defragmentInput_short (length_le_two_of_not_long notLong)]
    match x, notLong with
    | [], _ | [_], _ => rw [streamFrames_short (by simp)]; exact ⟨rfl, rfl⟩
    | [lo, hi], _ =>
      rw [streamFrames_cons] at noZero ⊢
      by_cases zero : readDgsize lo hi = 0
      · rw [if_pos zero] at noZero
        cases noZero
      · rw [if_neg zero, if_neg (by simpa using zero)]
        exact ⟨rfl, rfl⟩
    | _ :: _ :: _ :: _, h => exact (h _ _ _ _ rfl).elim

theorem streamFrames_append {front : Bytes} (tail : Bytes)
    (consumed : (defragmentInput front).dataBuf = [])
    (noError : (defragmentInput front).protoError = false) :
    streamFrames (front ++ tail) =
      ((defragmentInput front).received ++ (streamFrames tail).1, (streamFrames tail).2) := by
  induction front using defragmentInput.induct with
  | case1 lo hi b more zero =>
    rw [defragmentInput_cons lo hi (List.cons_ne_nil b more), if_pos zero] at noError
    cases noError
  | case2 lo hi b more nonzero enough ih =>
    rw [defragmentInput_take nonzero enough] at consumed noError ⊢
    rw [List.cons_append, List.cons_append, streamFrames_cons, if_neg nonzero,
      if_pos (by simp only [List.length_append, List.length_cons] at enough ⊢; omega),
      List.take_append_of_le_length enough, List.drop_append_of_le_length enough,
      ih consumed noError]
    rfl
  | case3 lo hi b more nonzero short =>
    rw [defragmentInput_cons lo hi (List.cons_ne_nil b more), if_neg nonzero, if_neg short]
      at consumed
    cases consumed
  | case4 x notLong =>
    rw [defragmentInput_short (length_le_two_of_not_long notLong)] at consumed ⊢
    subst consumed
    rfl

theorem feed_defragmentInput {front : Bytes} (chunk tail : Bytes)
    (noZero : (streamFrames (front ++ chunk ++ tail)).2 = false) :
    feed (defragmentInput front) chunk = defragmentInput (front ++ chunk) := by
  rw [defragmentInput_append, feed_eq_resume]
  rintro ⟨consumed, lo, hi, rfl, zero⟩
  cases failed : (defragmentInput front).protoError
  · rw [List.append_assoc, streamFrames_append _ consumed failed, List.cons_append,
      List.cons_append, streamFrames_cons, if_pos zero] at noZero
    cases noZero
  · exact defragmentInput_dataBuf_of_protoError failed consumed

theorem foldl_feed_defragmentInput (chunks : List Bytes) (front : Bytes)
    (noZero : (streamFrames (front ++ chunks.flatten)).2 = false) :
    chunks.foldl feed (defragmentInput front) = defragmentInput (front ++ chunks.flatten) := by
  induction chunks generalizing front with
  | nil => simp
  | cons chunk chunks ih =>
    rw [List.flatten_cons, ← List.append_assoc] at noZero ⊢
    rw [List.foldl_cons, feed_defragmentInput chunk _ noZero, ih (front ++ chunk) noZero]

/-- For a stream with no zero length field among its frames, every way of splitting it into
`recv` chunks delivers exactly the payloads of its frames, in order, with no protocol error:
the fast path and the buffered path agree. -/
theorem readChunks_of_streamFrames (chunks : List Bytes)
    (noZero : (streamFrames chunks.flatten).2 = false) :
    (readChunks chunks).received = (streamFrames chunks.flatten).1 ∧
      (readChunks chunks).protoError = false := by
  have run := foldl_feed_defragmentInput chunks [] noZero
  rw [defragmentInput_short (by simp), List.nil_append] at run
  rw [readChunks, run]
  exact defragmentInput_of_streamFrames noZero

theorem readChunks_split_frames :
    streamFrames [1, 0, 7, 2, 0, 8, 9] = ([[7], [8, 9]], false) ∧
      (readChunks [[1, 0, 7], [2, 0], [8, 9]]).received = [[7], [8, 9]] := by
  have frames : streamFrames [1, 0, 7, 2, 0, 8, 9] = ([[7], [8, 9]], false) := by
    simp [streamFrames_cons, streamFrames_short, readDgsize, UInt8.size]
  have flat : ([[1, 0, 7], [2, 0], [8, 9]] : List Bytes).flatten = [1, 0, 7, 2, 0, 8, 9] := rfl
  exact ⟨frames, (readChunks_of_streamFrames [[1, 0, 7], [2, 0], [8, 9]]
    (by rw [flat, frames])).1.trans (by rw [flat, frames])⟩

/-- A chunk that is exactly a zero length field, on an empty buffer, takes the fast path and is
delivered as an empty datagram without a protocol error; a zero length field that ends a
buffered chunk is not looked at until a further byte arrives. -/
theorem readChunks_zero_length_field :
    readChunks [[0, 0]] = ⟨[], [[]], false⟩ ∧ streamFrames [0, 0] = ([], true) ∧
      readChunks [[1, 0, 7, 0, 0]] = ⟨[0, 0], [[7]], false⟩ ∧
      streamFrames [1, 0, 7, 0, 0] = ([[7]], true) := by
  simp [readChunks, feed, processDatagram, streamFrames_cons, defragmentInput_cons,
    defragmentInput_short, readDgsize, UInt8.size]

end Astron.Framing
