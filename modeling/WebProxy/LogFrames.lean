import WebProxy.Library.BigEndian
import WebProxy.Library.ByteFile
import WebProxy.Library.Checked
import WebProxy.Library.Lines

/-! `container_log_tail` of `dockerpull.rs`: the loop that takes the frames of docker's log stream apart,
and the text it makes of what they carry. -/

namespace WebProxy.LogFrames

open ByteFile (Bytes)

/-- `u32::from_be_bytes` of the fifth to the eighth byte; it fails where there is no such byte. -/
def frameLength (rest : Bytes) : Option Nat :=
  rest[4]?.bind (fun first => rest[5]?.bind (fun second => rest[6]?.bind (fun third =>
    rest[7]?.map (fun fourth => BigEndian.value [first, second, third, fourth]))))

/-- The loop with every index, sum and slice checked; it fails too where it runs out of rounds. -/
def demuxLoop : Nat → Bytes → Bytes → Option Bytes
  | 0, out, rest => if 8 ≤ rest.length then none else some out
  | rounds + 1, out, rest =>
      if 8 ≤ rest.length then
        (frameLength rest).bind (fun len =>
          (Checked.add 8 len).bind (fun stop =>
            if rest.length < stop then some out
            else
              (Checked.slice rest 8 stop).bind (fun payload =>
                (Checked.slice rest stop rest.length).bind (fun left =>
                  demuxLoop rounds (out ++ payload) left))))
      else some out

def demux (bytes : Bytes) : Option Bytes := demuxLoop bytes.length [] bytes

def isAsciiGraphic (char : Char) : Bool := 33 ≤ char.toNat && char.toNat ≤ 126

/-- `str::lines`: a line ends with a newline, and a carriage return right before it goes with it. -/
def textLines (text : List Char) : List (List Char) :=
  (Lines.lines '\n' text).map (fun line =>
    if ['\r', '\n'].isSuffixOf line then line.dropLast.dropLast else line.dropLast) ++
  (if Lines.openEnd '\n' text = [] then [] else [Lines.openEnd '\n' text])

/-- The text of a log; `lossy` is `String::from_utf8_lossy` and `isAlphanumeric` the method of `char`. -/
def logText (lossy : Bytes → List Char) (isAlphanumeric : Char → Bool) (out : Bytes) : List Char :=
  (textLines (lossy out)).flatMap (fun line =>
    line.dropWhile (fun char => !isAsciiGraphic char && !isAlphanumeric char) ++ ['\n'])

def containerLogTail (lossy : Bytes → List Char) (isAlphanumeric : Char → Bool) (bytes : Bytes) :
    Option (List Char) :=
  (demux bytes).map (logText lossy isAlphanumeric)

structure LogFrame where
  stream : UInt8
  padding : Bytes
  payload : Bytes
  padded : padding.length = 3
  small : payload.length < 2 ^ 32

def LogFrame.header (frame : LogFrame) : Bytes :=
  frame.stream :: (frame.padding ++ BigEndian.spell 4 frame.payload.length)

def LogFrame.encode (frame : LogFrame) : Bytes := frame.header ++ frame.payload

@[simp] theorem LogFrame.header_length (frame : LogFrame) : frame.header.length = 8 := by
  rw [header, List.length_cons, List.length_append, frame.padded, BigEndian.spell_length]

@[simp] theorem LogFrame.encode_length (frame : LogFrame) :
    frame.encode.length = 8 + frame.payload.length := by
  rw [encode, List.length_append, header_length]

theorem frameLength_eq {rest : Bytes} (header : 8 ≤ rest.length) :
    frameLength rest = some (BigEndian.value ((rest.drop 4).take 4)) := by
  match rest, header with
  | _ :: _ :: _ :: _ :: _ :: _ :: _ :: _ :: _, _ => rfl

theorem frameLength_lt {rest : Bytes} {len : Nat} (read : frameLength rest = some len) : len < 2 ^ 32 := by
  unfold frameLength at read
  simp only [Option.bind_eq_some_iff, Option.map_eq_some_iff] at read
  obtain ⟨first, _, second, _, third, _, fourth, _, rfl⟩ := read
  have width : 256 ^ 4 = 2 ^ 32 := by decide
  exact Nat.lt_of_lt_of_eq (BigEndian.value_lt [first, second, third, fourth]) width

theorem demuxLoop_succ {rest : Bytes} {len : Nat} (rounds : Nat) (out : Bytes) (header : 8 ≤ rest.length)
    (read : frameLength rest = some len) :
    demuxLoop (rounds + 1) out rest =
      if rest.length < 8 + len then some out
      else demuxLoop rounds (out ++ (rest.drop 8).take len) (rest.drop (8 + len)) := by
  have small := frameLength_lt read
  rw [demuxLoop, if_pos header, read, Option.bind_some, Checked.add_of_lt (by omega), Option.bind_some]
  by_cases cut : rest.length < 8 + len
  · rw [if_pos cut, if_pos cut]
  · rw [if_neg cut, if_neg cut, Checked.slice_of_le (by omega) (by omega), Option.bind_some,
      Checked.slice_rest (by omega), Option.bind_some, Nat.add_sub_cancel_left]

theorem demuxLoop_short {rest : Bytes} (rounds : Nat) (out : Bytes) (short : rest.length < 8) :
    demuxLoop rounds out rest = some out := by
  cases rounds with
  | zero => rw [demuxLoop, if_neg (by omega)]
  | succ rounds => rw [demuxLoop, if_neg (by omega)]

theorem demuxLoop_total (rest : Bytes) (rounds : Nat) (enough : rest.length ≤ rounds) (out : Bytes) :
    ∃ result, demuxLoop rounds out rest = some result := by
  induction rounds generalizing rest out with
  | zero => exact ⟨out, demuxLoop_short 0 out (by omega)⟩
  | succ rounds ih =>
      by_cases header : 8 ≤ rest.length
      · rw [demuxLoop_succ rounds out header (frameLength_eq header)]
        by_cases cut : rest.length < 8 + BigEndian.value ((rest.drop 4).take 4)
        · exact ⟨out, if_pos cut⟩
        · rw [if_neg cut]
          apply ih
          rw [List.length_drop]
          omega
      · exact ⟨out, demuxLoop_short _ out (by omega)⟩

theorem demuxLoop_rounds (rest : Bytes) (rounds more : Nat) (enough : rest.length ≤ rounds)
    (also : rest.length ≤ more) (out : Bytes) : demuxLoop rounds out rest = demuxLoop more out rest := by
  induction rounds generalizing rest more out with
  | zero => rw [demuxLoop_short 0 out (by omega), demuxLoop_short more out (by omega)]
  | succ rounds ih =>
      by_cases header : 8 ≤ rest.length
      · obtain ⟨fewer, rfl⟩ : ∃ fewer, more = fewer + 1 := ⟨more - 1, by omega⟩
        rw [demuxLoop_succ rounds out header (frameLength_eq header),
          demuxLoop_succ fewer out header (frameLength_eq header)]
        have shorter : (rest.drop (8 + BigEndian.value ((rest.drop 4).take 4))).length < rest.length := by
          rw [List.length_drop]
          omega
        rw [ih _ fewer (by omega) (by omega)]
      · rw [demuxLoop_short _ out (by omega), demuxLoop_short _ out (by omega)]

theorem frameLength_header (frame : LogFrame) (behind : Bytes) :
    frameLength (frame.header ++ behind) = some frame.payload.length := by
  have front : (frame.stream :: frame.padding).length = 4 := by rw [List.length_cons, frame.padded]
  have cut : frame.header ++ behind =
      (frame.stream :: frame.padding) ++ (BigEndian.spell 4 frame.payload.length ++ behind) := by
    rw [LogFrame.header, List.cons_append, List.append_assoc, List.cons_append]
  have bytes : ((frame.header ++ behind).drop 4).take 4 = BigEndian.spell 4 frame.payload.length := by
    rw [cut, List.drop_left' front, List.take_left' (BigEndian.spell_length 4 _)]
  rw [frameLength_eq (by rw [List.length_append, LogFrame.header_length]; omega), bytes,
    BigEndian.value_spell (Nat.lt_of_lt_of_eq frame.small (by decide))]

theorem demuxLoop_frame (rounds : Nat) (out : Bytes) (frame : LogFrame) (behind : Bytes) :
    demuxLoop (rounds + 1) out (frame.encode ++ behind) = demuxLoop rounds (out ++ frame.payload) behind := by
  have shape : frame.encode ++ behind = frame.header ++ (frame.payload ++ behind) :=
    List.append_assoc _ _ _
  have whole : frame.encode.length = 8 + frame.payload.length := frame.encode_length
  have header : 8 ≤ (frame.encode ++ behind).length := by
    rw [List.length_append]
    omega
  have read : frameLength (frame.encode ++ behind) = some frame.payload.length := by
    rw [shape, frameLength_header]
  have payload : ((frame.encode ++ behind).drop 8).take frame.payload.length = frame.payload := by
    rw [shape, List.drop_left' frame.header_length, List.take_left' rfl]
  rw [demuxLoop_succ rounds out header read, if_neg (by rw [List.length_append]; omega), payload,
    List.drop_left' whole]

/-- What a stream may end with: a frame that is not all there. -/
def Unfinished (tail : Bytes) : Prop := ∃ frame : LogFrame, tail <+: frame.encode ∧ tail ≠ frame.encode

theorem Unfinished.shorter {tail : Bytes} {frame : LogFrame} (front : tail <+: frame.encode)
    (proper : tail ≠ frame.encode) : tail.length < frame.encode.length := by
  apply Nat.lt_of_le_of_ne front.length_le
  intro same
  exact proper (front.eq_of_length same)

theorem demuxLoop_unfinished {tail : Bytes} (unfinished : Unfinished tail) (rounds : Nat)
    (enough : tail.length ≤ rounds) (out : Bytes) : demuxLoop rounds out tail = some out := by
  obtain ⟨frame, front, proper⟩ := unfinished
  have shorter := Unfinished.shorter front proper
  by_cases header : 8 ≤ tail.length
  · obtain ⟨fewer, rfl⟩ : ∃ fewer, rounds = fewer + 1 := ⟨rounds - 1, by omega⟩
    have begins : frame.header <+: tail :=
      List.prefix_of_prefix_length_le (List.prefix_append _ _) front (by rwa [LogFrame.header_length])
    obtain ⟨behind, rfl⟩ := begins
    rw [LogFrame.encode_length] at shorter
    rw [demuxLoop_succ fewer out header (frameLength_header frame behind), if_pos shorter]
  · exact demuxLoop_short rounds out (by omega)

theorem demuxLoop_frames (frames : List LogFrame) {tail : Bytes} (unfinished : Unfinished tail) (rounds : Nat)
    (enough : (frames.flatMap LogFrame.encode ++ tail).length ≤ rounds) (out : Bytes) :
    demuxLoop rounds out (frames.flatMap LogFrame.encode ++ tail) =
      some (out ++ frames.flatMap LogFrame.payload) := by
  induction frames generalizing rounds out with
  | nil =>
      rw [List.flatMap_nil, List.nil_append, List.flatMap_nil, List.append_nil]
      exact demuxLoop_unfinished unfinished rounds enough out
  | cons frame frames ih =>
      rw [List.flatMap_cons, List.append_assoc, List.length_append, LogFrame.encode_length] at enough
      obtain ⟨fewer, rfl⟩ : ∃ fewer, rounds = fewer + 1 := ⟨rounds - 1, by omega⟩
      rw [List.flatMap_cons, List.append_assoc, demuxLoop_frame, ih fewer (by omega), List.flatMap_cons,
        List.append_assoc]

/-- The loop ends on every stream with every index and slice in range, and it puts out the payloads of
the whole frames. -/
theorem log_demux :
    (∀ bytes : Bytes, ∃ out, demux bytes = some out ∧
      ∀ rounds, bytes.length ≤ rounds → demuxLoop rounds [] bytes = some out) ∧
    ∀ (frames : List LogFrame) (tail : Bytes), Unfinished tail →
      demux (frames.flatMap LogFrame.encode ++ tail) = some (frames.flatMap LogFrame.payload) := by
  constructor
  · intro bytes
    obtain ⟨out, ended⟩ := demuxLoop_total bytes bytes.length le_rfl []
    refine ⟨out, ended, ?_⟩
    intro rounds enough
    rw [demuxLoop_rounds bytes rounds bytes.length enough le_rfl, ended]
  · intro frames tail unfinished
    rw [demux, demuxLoop_frames frames unfinished _ le_rfl, List.nil_append]

/-- A frame, an empty one, and the start of a third. -/
theorem log_demux_cut :
    demux ([⟨1, [0, 0, 0], [111, 107], rfl, by decide⟩, ⟨2, [0, 0, 0], [], rfl, by decide⟩].flatMap
      LogFrame.encode ++ [1, 0, 0, 0, 0, 0, 0, 9, 65]) = some [111, 107] := by
  refine log_demux.2 _ _ ⟨⟨1, [0, 0, 0], List.replicate 9 65, rfl, by decide⟩, ?_, ?_⟩
  · exact ⟨List.replicate 8 65, rfl⟩
  · decide

theorem containerLogTail_frames (lossy : Bytes → List Char) (isAlphanumeric : Char → Bool)
    (frames : List LogFrame) {tail : Bytes} (unfinished : Unfinished tail) :
    containerLogTail lossy isAlphanumeric (frames.flatMap LogFrame.encode ++ tail) =
      some (logText lossy isAlphanumeric (frames.flatMap LogFrame.payload)) := by
  rw [containerLogTail, demux, demuxLoop_frames frames unfinished _ le_rfl, List.nil_append, Option.map_some]

end WebProxy.LogFrames
