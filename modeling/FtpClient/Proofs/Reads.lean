import FtpClient.Stream.Source

/-
The reads of a source, one call after another.

A source is defined by all that it will deliver, and `Source.pieces` cuts that to the size of a
buffer at once.  `Source.Reads` says the same step by step: a call takes what has arrived as far
as the buffer holds it, the rest of it is for the next call, and an interrupted call is made
again.
-/

namespace FtpClient
namespace Source

/-- What successive calls with a buffer of `size` octets take, until nothing more arrives. -/
inductive Reads (size : Nat) : List Arrival → List (List UInt8) → Prop where
  | ended : Reads size [] []
  | interrupted {rest : List Arrival} {pieces : List (List UInt8)} :
      Reads size rest pieces → Reads size (.interrupted :: rest) pieces
  | nothing {rest : List Arrival} {pieces : List (List UInt8)} :
      Reads size rest pieces → Reads size (.chunk [] :: rest) pieces
  | all {bytes : List UInt8} {rest : List Arrival} {pieces : List (List UInt8)} :
      bytes ≠ [] → bytes.length ≤ size → Reads size rest pieces →
      Reads size (.chunk bytes :: rest) (bytes :: pieces)
  | part {bytes : List UInt8} {rest : List Arrival} {pieces : List (List UInt8)} :
      size < bytes.length → Reads size (.chunk (bytes.drop size) :: rest) pieces →
      Reads size (.chunk bytes :: rest) (bytes.take size :: pieces)

theorem cutFrom_of_le {size room : Nat} {piece bs : List UInt8} (h : bs.length ≤ room)
    (hne : piece.reverse ++ bs ≠ []) : cutFrom size room piece bs = [piece.reverse ++ bs] := by
  induction bs generalizing room piece with
  | nil =>
      have hpiece : piece ≠ [] := by simpa using hne
      simp [cutFrom, hpiece]
  | cons b rest ih =>
      cases room with
      | zero => cases h
      | succ room =>
          rw [cutFrom, ih (Nat.le_of_succ_le_succ h) (by simp)]
          simp

theorem cutFrom_of_lt {size room : Nat} {piece bs : List UInt8} (hsize : 0 < size)
    (h : room < bs.length) : cutFrom size room piece bs =
      (piece.reverse ++ bs.take room) :: cutFrom size size [] (bs.drop room) := by
  induction bs generalizing room piece with
  | nil => cases h
  | cons b rest ih =>
      cases room with
      | zero =>
          obtain ⟨k, rfl⟩ : ∃ k, size = k + 1 := ⟨size - 1, by omega⟩
          simp [cutFrom]
      | succ room =>
          rw [cutFrom, ih (Nat.lt_of_succ_lt_succ h)]
          simp

theorem reads_chunk {size : Nat} (hsize : 0 < size) {rest : List Arrival}
    {pieces : List (List UInt8)} (h : Reads size rest pieces) (bytes : List UInt8) :
    Reads size (.chunk bytes :: rest) (cutFrom size size [] bytes ++ pieces) := by
  induction hlength : bytes.length using Nat.strongRecOn generalizing bytes with
  | ind n ih =>
      by_cases hnil : bytes = []
      · rw [hnil]
        exact .nothing h
      · by_cases hfits : bytes.length ≤ size
        · have hone : cutFrom size size [] bytes = [bytes] := cutFrom_of_le hfits hnil
          rw [hone]
          exact .all hnil hfits h
        · have hlong : size < bytes.length := Nat.lt_of_not_le hfits
          rw [cutFrom_of_lt hsize hlong]
          refine .part hlong (ih _ ?_ (bytes.drop size) rfl)
          rw [List.length_drop]
          omega

/-- The pieces of a source are what its reads take. -/
theorem reads_pieces {size : Nat} (hsize : 0 < size) (s : Source) :
    Reads size s.arrivals (s.pieces size) := by
  obtain ⟨arrivals, ending⟩ := s
  induction arrivals with
  | nil => exact .ended
  | cons a rest ih =>
      cases a with
      | chunk bytes => exact reads_chunk hsize ih bytes
      | interrupted => exact .interrupted ih

end Source
end FtpClient
