import Eki.Firmware.HttpResponse
import Eki.Firmware.RetryAfter
import Eki.Library.Elapsed

/-!
# Connections are kept safely

Nothing of a response is left on a connection that is kept, and a request that
finds something on it stops it.
-/

namespace Eki.Firmware.Http

open Transition

/-! ## The first write of a request -/

/-- The guard was armed and nothing was written since. -/
def Awaits : List ClientEvent → Bool
  | [] => false
  | .guarded :: _ => true
  | .asked _ _ _ :: earlier => Awaits earlier
  | .wrote _ _ :: _ => false

/-- The first bytes of a guarded request are written only when nothing is
buffered; otherwise the connection is stopped. -/
def FirstWritesGuarded (history : List ClientEvent) : Prop :=
  ∀ pending effect before, .wrote pending effect :: before <:+ history →
    Awaits before = true → effect = if pending = 0 then .written else .stopped

structure Guarded (client : ReuseGuardedClient) : Prop where
  armed : client.reuseGuard.armed = Awaits client.history
  first : FirstWritesGuarded client.history

theorem Guarded.initial : Guarded ReuseGuardedClient.initial where
  armed := rfl
  first := by
    intro pending effect before suffix
    exact absurd (List.suffix_nil.mp suffix) (List.cons_ne_nil _ _)

theorem write_armed {guard : HttpReuseGuard} (armed : guard.armed = true)
    (pending : Int) :
    write guard pending =
      (if pending = 0 then .written else .stopped, { armed := false }) := by
  by_cases empty : pending = 0
  · simp [write, HttpReuseGuard.allowFirstWrite, armed, empty]
  · simp [write, HttpReuseGuard.allowFirstWrite, armed, empty]

theorem write_disarms (guard : HttpReuseGuard) (pending : Int) :
    (write guard pending).2.armed = false := by
  cases armed : guard.armed with
  | true => rw [write_armed armed]
  | false => simp [write, armed]

theorem Guarded.called {client : ReuseGuardedClient}
    (guarded : Guarded client) (call : ClientCall) :
    Guarded (client.called call) := by
  cases call with
  | guardNextRequest =>
    constructor
    · rfl
    · intro pending effect before suffix
      rcases List.suffix_cons_iff.mp suffix with head | tail
      · cases head
      · exact guarded.first pending effect before tail
  | available asked =>
    constructor
    · exact guarded.armed
    · intro pending effect before suffix
      rcases List.suffix_cons_iff.mp suffix with head | tail
      · cases head
      · exact guarded.first pending effect before tail
  | write pending =>
    constructor
    · exact write_disarms _ _
    · intro pending effect before suffix awaits
      rcases List.suffix_cons_iff.mp suffix with head | tail
      · cases head
        rw [← guarded.armed] at awaits
        rw [write_armed awaits]
      · exact guarded.first pending effect before tail awaits

theorem guarded_of_steps {client : ReuseGuardedClient}
    {allowed : ReuseGuardedClient → ClientCall → Prop}
    (steps : System.Steps ReuseGuardedClient.step allowed
      ReuseGuardedClient.initial client) : Guarded client := by
  apply steps.invariant Guarded.initial
  intro state call next guarded _ taken
  cases taken
  exact guarded.called call

/-! ## The length -/

theorem lengthFrom_some {bytes : List Byte} {length result : BitVec 32}
    {number : Nat} (same : length.toNat = number) (small : number ≤ 1024)
    (accepted : lengthFrom length bytes = some result) :
    (∀ byte ∈ bytes, isDigit byte = true) ∧
      result.toNat = decimalFrom number bytes ∧
      decimalFrom number bytes ≤ 1024 := by
  induction bytes generalizing length number with
  | nil =>
    cases accepted
    exact ⟨by simp, same, small⟩
  | cons byte rest induction =>
    simp only [lengthFrom] at accepted
    split at accepted
    · cases accepted
    · rename_i digit
      simp only [Bool.not_eq_true', Bool.not_eq_false] at digit
      split at accepted
      · cases accepted
      · rename_i fits
        obtain ⟨value, nine⟩ := digitOf_toNat digit
        have inside := BitVec.le_def.mp (BitVec.not_lt.mp fits)
        have below : digitOf byte ≤ telemetryResponseBodyLimit := by
          apply BitVec.le_def.mpr
          rw [value]
          exact Nat.le_trans nine (by decide)
        have limit : telemetryResponseBodyLimit.toNat = 1024 := rfl
        have ten : (10 : BitVec 32).toNat = 10 := rfl
        rw [BitVec.toNat_udiv, BitVec.toNat_sub_of_le below, value, limit,
          ten] at inside
        have next : (length * 10 + digitOf byte).toNat =
            number * 10 + (byte.toNat - 48) := by
          rw [BitVec.toNat_add, BitVec.toNat_mul, value, ten]
          omega
        obtain ⟨digits, result, bounded⟩ :=
          induction next (by omega) accepted
        refine ⟨?_, result, bounded⟩
        intro other member
        rcases List.mem_cons.mp member with rfl | later
        · exact digit
        · exact digits other later

/-- What the fields of a response say when its length is accepted. -/
structure Sized (http : HttpClient) (status : Int) (length : Nat) : Prop where
  status : status = 200 ∨ status = 202
  transferEncoding : http.transferEncoding.bytes = []
  some : http.contentLength.bytes ≠ []
  digits : ∀ byte ∈ http.contentLength.bytes, isDigit byte = true
  value : decimal http.contentLength.bytes = length
  bounded : length ≤ 1024
  parsed : http.size.toInt = length

variable {http : HttpClient} {status : Int}

theorem sized_of_accepted {length : BitVec 32}
    (accepted : acceptedResponseBodyLength status (some http.contentLength)
      (some http.transferEncoding) http.size = some length) :
    Sized http status length.toNat := by
  simp only [acceptedResponseBodyLength] at accepted
  split at accepted
  · cases accepted
  · rename_i valid
    simp only [not_or, not_and, Decidable.not_not, ne_eq] at valid
    obtain ⟨known, some, encoding, positive⟩ := valid
    split at accepted
    · cases accepted
    · rename_i result read
      split at accepted
      · rename_i parsed
        cases accepted
        obtain ⟨digits, value, bounded⟩ :=
          @lengthFrom_some _ 0 _ 0 rfl (by decide) read
        rw [← value] at bounded
        refine ⟨?_, encoding, some, digits, value.symm, bounded, ?_⟩
        · by_cases ok : status = 200
          · exact Or.inl ok
          · exact Or.inr (known ok)
        · have cond := BitVec.toInt_eq_toNat_cond http.size
          rw [parsed] at cond positive ⊢
          split at cond <;> omega
      · cases accepted

/-! ## The body -/

variable {stream : Stream} {length : Nat}

/-- How many bytes the reads of so many rounds return; a round in which
nothing is available does not read. -/
def bytesRead (stream : Stream) (length : Nat) : Nat → Nat
  | 0 => 0
  | index + 1 =>
    let before := bytesRead stream length index
    let round := stream.rounds index
    if round.available = 0 then before
    else
      before + (round.received (readCount length before round.available)).toNat

/-- A complete body was read in time, and nothing follows it. -/
structure Finished (stream : Stream) (length : Nat) (drained : Drained) :
    Prop where
  consumed : drained.consumed = length
  read : bytesRead stream length drained.rounds = length
  early : (stream.rounds drained.rounds).now - stream.startedAt <
    telemetryResponseDrainTimeoutMs
  empty : (stream.rounds drained.rounds).available = 0

variable {limit : Nat} {drained : Drained}

theorem finished_of_drainFrom {index consumed : Nat} (some : 0 < length)
    (within : consumed ≤ length)
    (read : bytesRead stream length index = consumed)
    (returned : drainFrom stream length limit index consumed = .some drained)
    (complete : drained.complete = true) : Finished stream length drained := by
  induction limit generalizing index consumed with
  | zero => cases returned
  | succ limit induction =>
    simp only [drainFrom] at returned
    split at returned
    · split at returned
      · cases returned
        cases complete
      · split at returned
        · cases returned
          cases complete
        · split at returned
          · rename_i idle
            refine induction within ?_ returned
            rw [bytesRead, if_pos idle, read]
          · rename_i busy
            split at returned
            · cases returned
              cases complete
            · rename_i fits
              simp only [not_or, Nat.not_lt] at fits
              refine induction ?_ (by rw [bytesRead, if_neg busy, read])
                returned
              have count : readCount length consumed
                  (stream.rounds index).available ≤ length - consumed := by
                simp only [readCount]
                split <;> split <;> omega
              omega
    · rename_i all
      split at returned
      · cases returned
        cases complete
      · rename_i early
        cases returned
        have time : ¬ decide
            ((stream.rounds index).now - stream.startedAt ≥
              telemetryResponseDrainTimeoutMs) = true :=
          fun late => early ⟨some, late⟩
        rw [decide_eq_true_eq] at time
        have whole := Nat.le_antisymm within (Nat.not_lt.mp all)
        exact ⟨whole, read.trans whole, BitVec.not_le.mp time,
          of_decide_eq_true complete⟩

/-- The clock goes on, and no round jumps over the rest of its period. -/
structure Advancing (stream : Stream) : Prop where
  goes : ∀ n, ∃ m, n ≤ m ∧ (stream.rounds m).now ≠ (stream.rounds n).now
  steps : ∀ n, ((stream.rounds (n + 1)).now - (stream.rounds n).now).toNat +
    telemetryResponseDrainTimeoutMs.toNat < 4294967296

theorem Advancing.late (advancing : Advancing stream) :
    ∃ n, telemetryResponseDrainTimeoutMs ≤
      (stream.rounds n).now - stream.startedAt :=
  @Elapsed.exists_le_sub (fun n => (stream.rounds n).now) _ advancing.goes _
    advancing.steps

theorem drainFrom_ends {last : Nat}
    (late : telemetryResponseDrainTimeoutMs ≤
      (stream.rounds last).now - stream.startedAt)
    {limit index consumed : Nat} (before : index ≤ last)
    (enough : last < index + limit) :
    ∃ drained, drainFrom stream length limit index consumed =
      some drained := by
  induction limit generalizing index consumed with
  | zero => omega
  | succ limit induction =>
    simp only [drainFrom]
    split
    · split
      · exact ⟨_, rfl⟩
      · rename_i early
        have next : index + 1 ≤ last := by
          apply Nat.lt_of_le_of_ne before
          intro same
          rw [same, decide_eq_true_eq] at early
          exact early late
        split
        · exact ⟨_, rfl⟩
        · split
          · exact induction next (by omega)
          · split
            · exact ⟨_, rfl⟩
            · exact induction next (by omega)
    · split
      · exact ⟨_, rfl⟩
      · exact ⟨_, rfl⟩

theorem drainFrom_mono {index consumed : Nat}
    (returned : drainFrom stream length limit index consumed = some drained)
    {more : Nat} (enough : limit ≤ more) :
    drainFrom stream length more index consumed = some drained := by
  induction limit generalizing index consumed more with
  | zero => cases returned
  | succ limit induction =>
    cases more with
    | zero => omega
    | succ more =>
      simp only [drainFrom] at returned ⊢
      split at returned
      · rename_i unread
        rw [if_pos unread]
        split at returned
        · rename_i late
          rw [if_pos late]
          exact returned
        · rename_i early
          rw [if_neg early]
          split at returned
          · rename_i failed
            rw [if_pos failed]
            exact returned
          · rename_i running
            rw [if_neg running]
            split at returned
            · rename_i idle
              rw [if_pos idle]
              exact induction returned (Nat.le_of_succ_le_succ enough)
            · rename_i some
              rw [if_neg some]
              split at returned
              · rename_i failed
                rw [if_pos failed]
                exact returned
              · rename_i read
                rw [if_neg read]
                exact induction returned (Nat.le_of_succ_le_succ enough)
      · rename_i all
        rw [if_neg all]
        exact returned

/-! ## The whole response -/

/-- When a connection is kept, the response was accepted, its body was read to
the last byte in time, and nothing follows it.  An empty body takes no time. -/
def Accepted (http : HttpClient) (status : Int) (drained : Drained) : Prop :=
  Sized http status drained.consumed ∧
    if drained.consumed = 0 then
      ∀ stream ∈ http.stream, (stream.rounds 0).available = 0
    else
      ∃ stream ∈ http.stream, Finished stream drained.consumed drained

theorem accepted_of_complete
    (returned : consumeAcceptedResponse limit http status = some drained)
    (complete : drained.complete = true) : Accepted http status drained := by
  simp only [consumeAcceptedResponse] at returned
  split at returned
  · cases returned
    cases complete
  · rename_i length accepted
    have sized := sized_of_accepted accepted
    split at returned
    · rename_i zero
      rw [zero] at sized
      cases returned
      refine ⟨sized, ?_⟩
      rw [if_pos rfl]
      intro stream held
      rw [Option.mem_def.mp held] at complete
      exact of_decide_eq_true complete
    · rename_i some
      split at returned
      · cases returned
        cases complete
      · rename_i stream held
        have positive : 0 < length.toNat := by
          apply Nat.pos_of_ne_zero
          intro zero
          exact some (BitVec.eq_of_toNat_eq zero)
        have finished := finished_of_drainFrom positive (Nat.zero_le _) rfl
          returned complete
        have all := finished.consumed
        rw [← all] at sized finished positive
        refine ⟨sized, ?_⟩
        rw [if_neg (Nat.ne_of_gt positive)]
        exact ⟨stream, held, finished⟩

theorem consumeAcceptedResponse_ends
    (advancing : ∀ stream ∈ http.stream, Advancing stream) :
    ∃ drained enough, ∀ limit, enough ≤ limit →
      consumeAcceptedResponse limit http status = some drained := by
  simp only [consumeAcceptedResponse]
  split
  · exact ⟨_, 0, fun _ _ => rfl⟩
  · rename_i length accepted
    split
    · exact ⟨_, 0, fun _ _ => rfl⟩
    · cases held : http.stream with
      | none => exact ⟨_, 0, fun _ _ => rfl⟩
      | some stream =>
        obtain ⟨last, late⟩ := (advancing stream held).late
        obtain ⟨drained, ends⟩ :=
          @drainFrom_ends stream length.toNat last late (last + 1) 0 0
            (Nat.zero_le _) (by omega)
        exact ⟨drained, last + 1, fun limit enough =>
          drainFrom_mono ends enough⟩

/-- Every response is consumed or refused after some rounds, a connection is
kept only when nothing of the response is left on it, the first bytes of the
next request are written only when nothing has come since, and a delay is the
number of seconds of a field, limited to five minutes. -/
theorem reuse_is_safe (http : HttpClient) (status : Int)
    (advancing : ∀ stream ∈ http.stream, Advancing stream)
    {allowed : ReuseGuardedClient → ClientCall → Prop}
    {client : ReuseGuardedClient}
    (steps : System.Steps ReuseGuardedClient.step allowed
      ReuseGuardedClient.initial client) :
    (∃ drained enough, ∀ limit, enough ≤ limit →
      consumeAcceptedResponse limit http status = some drained) ∧
    (∀ limit drained,
      consumeAcceptedResponse limit http status = some drained →
      drained.complete = true → Accepted http status drained) ∧
    FirstWritesGuarded client.history ∧
    retryAfterDelayMs none = 0 ∧
    ∀ value : CString,
      (∀ number, Delays number value.bytes →
        (retryAfterDelayMs (some value)).toNat = min number 300 * 1000) ∧
      ((¬ ∃ number, Delays number value.bytes) →
        retryAfterDelayMs (some value) = 0) := by
  refine ⟨consumeAcceptedResponse_ends advancing, ?_,
    (guarded_of_steps steps).first, rfl, retryAfterDelayMs_spec⟩
  intro limit drained returned complete
  exact accepted_of_complete returned complete

theorem nothing_terminated : (0 : Byte) ∉ ([] : List Byte) :=
  List.not_mem_nil

/-- A body of two bytes, on a clock that starts at the end of its period. -/
def twoBytes : HttpClient where
  contentLength := { bytes := [50], terminated := by decide }
  transferEncoding := { bytes := [], terminated := nothing_terminated }
  size := 2
  stream := some
    { startedAt := 4294967295
      rounds := fun n =>
        { now := BitVec.ofNat 32 n
          available := if n = 0 then 2 else 0
          connected := true
          received := fun count => count } }

theorem twoBytes_advancing :
    ∀ stream ∈ twoBytes.stream, Advancing stream := by
  intro stream held
  cases held
  constructor
  · intro n
    refine ⟨n + 1, Nat.le_succ n, ?_⟩
    have step := @BitVec.ofNat_add 32 n 1
    intro same
    dsimp only at same
    grind
  · intro n
    dsimp only
    have step : BitVec.ofNat 32 (n + 1) - BitVec.ofNat 32 n = 1 := by
      rw [BitVec.ofNat_add]
      grind
    rw [step]
    decide

theorem reuse_is_safe_of_two_bytes :
    (∃ drained, consumeAcceptedResponse 2 twoBytes 200 = some drained ∧
      drained.consumed = 2 ∧ Accepted twoBytes 200 drained) ∧
    ∃ client, System.Steps ReuseGuardedClient.step (fun _ _ => True)
        ReuseGuardedClient.initial client ∧
      client.history = [.wrote 1 .stopped, .guarded] ∧
      FirstWritesGuarded client.history := by
  have decided :
      (System.run ReuseGuardedClient.step (fun _ _ => true)
        ReuseGuardedClient.initial [.guardNextRequest, .write 1]).any
        (fun client =>
          decide (client.history = [.wrote 1 .stopped, .guarded])) = true := by
    decide
  obtain ⟨client, ran, holds⟩ := System.exists_of_run decided
  have steps : System.Steps ReuseGuardedClient.step (fun _ _ => True) _ client :=
    ran.mono fun _ _ _ => trivial
  obtain ⟨_, accepted, first, _, _⟩ :=
    reuse_is_safe twoBytes 200 twoBytes_advancing steps
  let drained : Drained :=
    { complete := true
      rounds := 1
      consumed := 2 }
  refine ⟨⟨drained, rfl, rfl, ?_⟩, client, steps, of_decide_eq_true holds, first⟩
  exact accepted 2 drained rfl rfl

end Eki.Firmware.Http
