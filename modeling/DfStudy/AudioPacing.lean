import DfStudy.AudioArithmetic

/-! How long the two threads pause after a packet. -/

namespace DfStudy.AudioPacing
open PacketData Support.CheckedInt AudioArithmetic

/-- How long `sleep_for` waits. It returns at once when there is nothing to wait for. -/
def sleepFor (duration : Int) : Nat := duration.toNat

section
variable (message : Message) (encoded : Encoded) (speakerSession : Nat)

/-- The pause that is asked for after a packet, in microseconds: the packet delay, in milliseconds, or the airtime. -/
def nominal (packetSize : Nat) : Nat :=
  if message.sleep ≠ 0 then message.sleep.toNat * 1000 else packetSize * 8 * 1000000 / message.bitrate.toNat

/-- The pauses of both threads are those that are asked for, and the same. -/
structure Alike (spoof inject : List Int) : Prop where
  packets : spoof.length = inject.length
  spoofed (i : Nat) (packet : i < spoof.length) :
    sleepFor (spoof.getD i 0) = nominal message (size message encoded speakerSession true i)
  injected (i : Nat) (packet : i < inject.length) :
    sleepFor (inject.getD i 0) = nominal message (size message encoded speakerSession false i)
  same (i : Nat) (packet : i < spoof.length) : sleepFor (spoof.getD i 0) = sleepFor (inject.getD i 0)

end

section
variable {message : Message} {encoded : Encoded} {speakerSession : Nat}

/-! One packet. -/

theorem int_small {field : UInt32} (small : field.toNat < 2147483648) : int field = field.toNat :=
  BitVec.toInt_eq_toNat_of_lt (show 2 * field.toNat < 2 ^ 32 by omega)

theorem int_large {field : UInt32} (large : 2147483648 ≤ field.toNat) : int field < 0 :=
  BitVec.toInt_neg_iff.mpr (show 2 ^ 32 ≤ 2 * field.toNat by omega)

/-- A packet to a participant holds a session in addition. -/
theorem size_le (i : Nat) : size message encoded speakerSession true i ≤ size message encoded speakerSession false i := by
  unfold size packetLength
  simp

/-- What a thread computes for a packet. -/
def computed (message : Message) (packet : Nat) : Int :=
  if 0 < int message.sleep then int message.sleep
  else (packet * 8 * 1000000 : Int).tdiv (int message.bitrate)

/-- The airtime that a thread computes is the nominal one, and nothing to wait for when the rate is no positive `int`. -/
theorem airtime_waits {packet : Nat} (small : packet ≤ 268) :
    sleepFor ((packet * 8 * 1000000 : Int).tdiv (int message.bitrate)) =
      packet * 8 * 1000000 / message.bitrate.toNat := by
  have whole : (packet * 8 * 1000000 : Int) = ((packet * 8 * 1000000 : Nat) : Int) := by simp
  by_cases rate : message.bitrate.toNat < 2147483648
  · rw [int_small rate, whole, ← Int.ofNat_tdiv]
    rfl
  · have negative := int_large (Nat.le_of_not_lt rate)
    have nothing := Int.tdiv_nonpos_of_nonneg_of_nonpos (show 0 ≤ (packet * 8 * 1000000 : Int) by omega) negative.le
    rw [Nat.div_eq_of_lt (by omega)]
    unfold sleepFor
    omega

theorem computed_airtime {packet : Nat} (none : message.sleep = 0) :
    computed message packet = (packet * 8 * 1000000 : Int).tdiv (int message.bitrate) := by
  unfold computed
  rw [none]
  exact if_neg (by decide)

/-- A packet delay is never waited for as asked. -/
theorem computed_delay {packet : Nat} (small : packet ≤ 268) (some : message.sleep ≠ 0) :
    sleepFor (computed message packet) ≠ nominal message packet := by
  have positive : message.sleep.toNat ≠ 0 := fun zero => some (UInt32.toNat_inj.mp zero)
  unfold nominal
  rw [if_pos some]
  by_cases int_ : message.sleep.toNat < 2147483648
  · have delay : computed message packet = message.sleep.toNat := by
      unfold computed
      rw [int_small int_]
      exact if_pos (by omega)
    rw [delay]
    unfold sleepFor
    omega
  · have airtime : computed message packet = (packet * 8 * 1000000 : Int).tdiv (int message.bitrate) :=
      if_neg (int_large (Nat.le_of_not_lt int_)).not_gt
    rw [airtime, airtime_waits small]
    have bound := Nat.div_le_self (packet * 8 * 1000000) message.bitrate.toNat
    omega

theorem sleepFor_thousand (duration : Int) : sleepFor (1000 * duration) = 1000 * sleepFor duration := by
  unfold sleepFor
  omega

/-- Waiting a thousand times as long makes no difference where there is nothing to wait for. -/
theorem packet_iff {spoofed injected : Nat} (shorter : spoofed ≤ injected) (small : injected ≤ 268)
    (rate : message.bitrate ≠ 0) :
    (sleepFor (computed message spoofed) = nominal message spoofed ∧
        sleepFor (1000 * computed message injected) = nominal message injected ∧
          sleepFor (computed message spoofed) = sleepFor (1000 * computed message injected)) ↔
      message.sleep = 0 ∧ 8000000 * injected < message.bitrate.toNat := by
  have positive : message.bitrate.toNat ≠ 0 := fun zero => rate (UInt32.toNat_inj.mp zero)
  by_cases none : message.sleep = 0
  · have airtime : ∀ packet, nominal message packet = packet * 8 * 1000000 / message.bitrate.toNat :=
      fun packet => if_neg (not_not.mpr none)
    rw [sleepFor_thousand, computed_airtime none, computed_airtime none, airtime_waits small,
      airtime_waits (shorter.trans small), airtime, airtime]
    constructor
    · rintro ⟨-, long, -⟩
      have zero : injected * 8 * 1000000 / message.bitrate.toNat = 0 := by omega
      rcases Nat.div_eq_zero_iff.mp zero with none | less
      · exact absurd none positive
      · exact ⟨none, by omega⟩
    · rintro ⟨-, less⟩
      have injects : injected * 8 * 1000000 / message.bitrate.toNat = 0 := Nat.div_eq_of_lt (by omega)
      have spoofs : spoofed * 8 * 1000000 / message.bitrate.toNat = 0 := Nat.div_eq_of_lt (by omega)
      rw [injects, spoofs]
      exact ⟨rfl, rfl, rfl⟩
  · exact iff_of_false (fun same => computed_delay (shorter.trans small) none same.1) fun condition => none condition.1

/-! All packets. -/

section
variable {outgoing : Bool} {times : List Int}

/-- A request that is served to its end has no packet, or packets whose numbers are computed. -/
theorem sent_cases (sent : sendAudio message encoded speakerSession outgoing = .ok times) :
    passes (quotient message) = 0 ∧ times = [] ∨
      Fits message encoded speakerSession outgoing ∧
        times = (List.range (passes (quotient message))).map fun i =>
          computed message (size message encoded speakerSession outgoing i) := by
  have total := sendAudio_total.mp (by rw [sent]; exact ok_ne_error)
  obtain ⟨some, least, doubles, fits⟩ := total
  by_cases len : 0 ≤ int message.len
  · by_cases positive : 0 < int message.framesize
    · have served := @Sized.sendAudio_eq _ encoded speakerSession outgoing ⟨len, doubles, positive⟩
      rw [if_pos (fits len positive), sent] at served
      exact .inr ⟨fits len positive, Except.ok.inj served⟩
    · rcases @sendAudio_framesize_negative _ encoded speakerSession outgoing len doubles (by omega) with
        failed | ⟨none, done⟩
      · rw [sent] at failed
        exact absurd failed ok_ne_error
      · rw [sent] at done
        exact .inl ⟨none, Except.ok.inj done⟩
  · have failed := @sendAudio_len_negative _ encoded speakerSession outgoing (by omega) least some
    rw [sent] at failed
    exact absurd failed ok_ne_error

theorem sent_eq (sent : sendAudio message encoded speakerSession outgoing = .ok times) :
    times = (List.range (passes (quotient message))).map fun i =>
      computed message (size message encoded speakerSession outgoing i) := by
  rcases sent_cases sent with ⟨none, empty⟩ | ⟨_, times⟩
  · rw [none, empty]
    rfl
  · exact times

theorem sent_fits (sent : sendAudio message encoded speakerSession outgoing = .ok times) {i : Nat}
    (packet : i < passes (quotient message)) : Fits message encoded speakerSession outgoing := by
  rcases sent_cases sent with ⟨none, _⟩ | ⟨fits, _⟩
  · exact absurd packet (by omega)
  · exact fits

end

theorem injected_times {inject : List Int} (injects : doInjectAudio message encoded speakerSession = .ok inject) :
    ∃ times, sendAudio message encoded speakerSession false = .ok times ∧ times.map (1000 * ·) = inject := by
  unfold doInjectAudio at injects
  cases sent : sendAudio message encoded speakerSession false with
  | error fault =>
    rw [sent] at injects
    cases injects
  | ok times =>
    rw [sent] at injects
    exact ⟨times, rfl, Except.ok.inj injects⟩

end

/-- The two threads pause alike, and as asked, exactly for a request that asks for no delay, at a rate at which every
packet takes less than a microsecond. -/
theorem pauses_alike_iff (message : Message) (encoded : Encoded) (speakerSession : Nat) (spoof inject : List Int)
    (spoofs : doSpoofAudio message encoded speakerSession = .ok spoof)
    (injects : doInjectAudio message encoded speakerSession = .ok inject) :
    Alike message encoded speakerSession spoof inject ↔
      ∀ i < passes (quotient message),
        message.sleep = 0 ∧ 8000000 * size message encoded speakerSession false i < message.bitrate.toNat := by
  obtain ⟨times, sent, rfl⟩ := injected_times injects
  have spoofed := sent_eq spoofs
  have injected := sent_eq sent
  have lengths : spoof.length = passes (quotient message) ∧ (times.map (1000 * ·)).length = passes (quotient message) := by
    simp [spoofed, injected]
  have spoofed_get : ∀ i < passes (quotient message),
      spoof.getD i 0 = computed message (size message encoded speakerSession true i) := fun i packet => by
    simp [spoofed, List.getD_eq_getElem?_getD, packet]
  have injected_get : ∀ i < passes (quotient message),
      (times.map (1000 * ·)).getD i 0 = 1000 * computed message (size message encoded speakerSession false i) :=
    fun i packet => by simp [injected, List.getD_eq_getElem?_getD, packet]
  have each : ∀ i < passes (quotient message), _ := fun i packet =>
    packet_iff (@size_le message encoded speakerSession i) ((sent_fits sent packet).2.2.2 i packet)
      (fun none => (sent_fits sent packet).2.2.1 (by rw [none]; rfl))
  constructor
  · intro alike i packet
    have same := alike.same i (by omega)
    have asked := alike.spoofed i (by omega)
    have asked' := alike.injected i (by omega)
    rw [spoofed_get i packet, injected_get i packet] at same
    rw [spoofed_get i packet] at asked
    rw [injected_get i packet] at asked'
    exact (each i packet).mp ⟨asked, asked', same⟩
  · intro condition
    have waits := fun i packet => (each i packet).mpr (condition i packet)
    refine ⟨by omega, fun i packet => ?_, fun i packet => ?_, fun i packet => ?_⟩
    · rw [spoofed_get i (by omega)]
      exact (waits i (by omega)).1
    · rw [injected_get i (by omega)]
      exact (waits i (by omega)).2.1
    · rw [spoofed_get i (by omega), injected_get i (by omega)]
      exact (waits i (by omega)).2.2

/-! A frame of 20 ms at 48 kHz and 40 kbit/s. -/

def frame : Message := { len := 1920, framesize := 1920, bitrate := 40000 }

def encodedTo (count : Int) : Encoded := fun _ => count

theorem pauses_alike_iff_frame : doSpoofAudio frame (encodedTo 100) 7 = .ok [20600, 20800] ∧
    doInjectAudio frame (encodedTo 100) 7 = .ok [20800000, 21000000] ∧
      (Alike frame (encodedTo 100) 7 [20600, 20800] [20800000, 21000000] ↔
        ∀ i < passes (quotient frame),
          frame.sleep = 0 ∧ 8000000 * size frame (encodedTo 100) 7 false i < frame.bitrate.toNat) :=
  ⟨by decide, by decide, pauses_alike_iff frame (encodedTo 100) 7 [20600, 20800] [20800000, 21000000] (by decide) (by decide)⟩

/-- The thread that injects audio waits for 20.8 s where the other one waits for 20.6 ms. -/
theorem frame_pauses_apart : doSpoofAudio frame (encodedTo 100) 7 = .ok [20600, 20800] ∧
    doInjectAudio frame (encodedTo 100) 7 = .ok [20800000, 21000000] ∧
      ¬Alike frame (encodedTo 100) 7 [20600, 20800] [20800000, 21000000] :=
  ⟨by decide, by decide, fun alike => absurd (alike.same 0 (by decide)) (by decide)⟩

end DfStudy.AudioPacing
