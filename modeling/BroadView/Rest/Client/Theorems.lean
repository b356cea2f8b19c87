import BroadView.Rest.Client
import Mathlib.Data.List.Basic

namespace BroadView.Rest.Client

open Printf

section Span

variable {low mid high : Int}

-- The numbers from low up to, but without, high.
def span (low high : Int) : List Int :=
  (List.range (high - low).toNat).map fun index : Nat => low + index

theorem mem_span {offset : Int} : offset ∈ span low high ↔ low ≤ offset ∧ offset < high := by
  unfold span
  rw [List.mem_map]
  constructor
  · rintro ⟨index, hindex, rfl⟩
    rw [List.mem_range] at hindex
    omega
  · rintro ⟨hlow, hhigh⟩
    exact ⟨(offset - low).toNat, by rw [List.mem_range]; omega, by omega⟩

theorem span_empty (h : high ≤ low) : span low high = [] := by
  have hlength : (high - low).toNat = 0 := by omega
  rw [span, hlength]
  rfl

theorem span_append (hlow : low ≤ mid) (hhigh : mid ≤ high) :
    span low mid ++ span mid high = span low high := by
  have hsum : (high - low).toNat = (mid - low).toNat + (high - mid).toNat := by omega
  rw [span, span, span, hsum, List.range_add, List.map_append, List.map_map]
  congr 1
  apply List.map_congr_left
  intro index _
  simp only [Function.comp_apply]
  omega

theorem span_ordered (low high : Int) : (span low high).Pairwise (· < ·) := by
  rw [span, List.pairwise_map]
  exact List.pairwise_lt_range.imp fun h => by omega

end Span

-- The places, in header and body taken together, of the bytes a call got accepted.
def base (size : Part → Nat) : Part → Int
  | .header => 0
  | .body => size .header

def accepted (size : Part → Nat) (call : SendCall) : List Int :=
  span (base size call.part + call.position) (base size call.part + call.position + call.result)

-- Only bytes of the two texts are handed to send, none of them goes out twice or
-- out of order, and success is told exactly when all of them went out.
structure Delivers (size : Part → Nat) (calls : List SendCall) (status : BVIEW_STATUS) :
    Prop where
  within : ∀ call ∈ calls, 0 ≤ call.position ∧ 0 ≤ call.length ∧
    call.position + call.length ≤ size call.part
  ordered : (calls.flatMap (accepted size)).Pairwise (· < ·)
  success_iff : status = .SUCCESS ↔ ∀ offset : Int, 0 ≤ offset →
    offset < size .header + size .body → offset ∈ calls.flatMap (accepted size)

section Delivers

variable {size : Part → Nat} {calls : List SendCall} {status : BVIEW_STATUS} {head stop : Int}

-- A run that gets the first bytes of the header and the first of the body out.
theorem delivers_iff
    (hwithin : ∀ call ∈ calls, 0 ≤ call.position ∧ 0 ≤ call.length ∧
      call.position + call.length ≤ size call.part)
    (hcalls : calls.flatMap (accepted size) =
      span 0 head ++ span (size .header) (size .header + stop))
    (hhead : 0 ≤ head ∧ head ≤ size .header) (hstop : 0 ≤ stop ∧ stop ≤ size .body) :
    Delivers size calls status ↔
      (status = .SUCCESS ↔ head = size .header ∧ stop = size .body) := by
  have hordered : (calls.flatMap (accepted size)).Pairwise (· < ·) := by
    rw [hcalls, List.pairwise_append]
    refine ⟨span_ordered _ _, span_ordered _ _, fun offset hoffset other hother => ?_⟩
    rw [mem_span] at hoffset hother
    omega
  have hall : (∀ offset : Int, 0 ≤ offset → offset < size .header + size .body →
      offset ∈ calls.flatMap (accepted size)) ↔ head = size .header ∧ stop = size .body := by
    simp only [hcalls, List.mem_append, mem_span]
    constructor
    · intro h
      constructor
      · by_contra hne
        have hmissing := h head hhead.1 (by omega)
        omega
      · by_contra hne
        have hmissing := h (size .header + stop) (by omega) (by omega)
        omega
    · rintro ⟨rfl, rfl⟩ offset hlow hhigh
      omega
  constructor
  · intro h
    rw [h.success_iff, hall]
  · intro h
    exact ⟨hwithin, hordered, by rw [h, hall]⟩

end Delivers

section Resend

variable (kernel : Kernel) {size : Part → Nat}

-- The kernel takes what is left of the body without an error.
def drains (turn : Nat) (left : Int) : Bool :=
  if _hmore : left > 0 then
    if kernel.setsockopt turn = false then false
    else if _herror : kernel.send turn left < 0 then false
    else drains (turn + 1) (left - kernel.send turn left)
  else true
termination_by left.toNat
decreasing_by
  have hbounds := send_bounds kernel turn _herror
  omega

-- Calls that go on from a place of the body.
structure Resent (size : Part → Nat) (start : Int) (rv : BVIEW_STATUS) (drained : Bool)
    (calls : List SendCall) (status : BVIEW_STATUS) (stop : Int) : Prop where
  from_start : start ≤ stop
  within_body : stop ≤ size .body
  within : ∀ call ∈ calls, 0 ≤ call.position ∧ 0 ≤ call.length ∧
    call.position + call.length ≤ size call.part
  sent : calls.flatMap (accepted size) = span (size .header + start) (size .header + stop)
  whole_iff : stop = size .body ↔ drained = true
  status_eq : status = if drained = true then rv else .FAILURE

-- The loop is given up with a part of the body left.
theorem resent_error {start : Int} {drained : Bool} (calls : List SendCall) (rv : BVIEW_STATUS)
    (hleft : start < size .body)
    (hwithin : ∀ call ∈ calls, 0 ≤ call.position ∧ 0 ≤ call.length ∧
      call.position + call.length ≤ size call.part)
    (hnone : calls.flatMap (accepted size) = []) (hdrained : drained = false) :
    Resent size start rv drained calls .FAILURE start where
  from_start := le_rfl
  within_body := hleft.le
  within := hwithin
  sent := by rw [hnone, span_empty le_rfl]
  whole_iff := by
    rw [hdrained]
    exact iff_of_false hleft.ne Bool.false_ne_true
  status_eq := by rw [hdrained, if_neg Bool.false_ne_true]

theorem resend_resent (turn : Nat) (position length bytes_sent : Int) (rv : BVIEW_STATUS)
    (hposition : 0 ≤ position) (hsize : position + length = size .body)
    (hsent : 0 ≤ bytes_sent ∧ bytes_sent ≤ length) :
    ∃ stop, Resent size (position + bytes_sent) rv (drains kernel turn (length - bytes_sent))
      (resend kernel turn position length bytes_sent rv).1
      (resend kernel turn position length bytes_sent rv).2 stop := by
  fun_induction resend kernel turn position length bytes_sent rv with
  | case1 turn position length bytes_sent hmore hsockopt =>
      have hdrains : drains kernel turn (length - bytes_sent) = false := by
        rw [drains, dif_pos hmore, if_pos hsockopt]
      exact ⟨position + bytes_sent, resent_error [] rv (by omega) (by simp) rfl hdrains⟩
  | case2 turn position length bytes_sent hmore hsockopt call herror =>
      have hdrains : drains kernel turn (length - bytes_sent) = false := by
        rw [drains, dif_pos hmore, if_neg hsockopt, dif_pos herror]
      have hnone : accepted size call = [] := span_empty (by
        change _ + (position + bytes_sent) + kernel.send turn (length - bytes_sent) ≤
          _ + (position + bytes_sent)
        omega)
      refine ⟨position + bytes_sent, resent_error [call] rv (by omega) ?_ ?_ hdrains⟩
      · intro other hmem
        rw [List.mem_singleton.mp hmem]
        simp only [call]
        omega
      · rw [List.flatMap_singleton, hnone]
  | case3 turn position length bytes_sent hmore hsockopt call herror rest ih =>
      have hbounds := send_bounds kernel turn herror
      have hdrains : drains kernel turn (length - bytes_sent) = drains kernel (turn + 1)
          (length - bytes_sent - kernel.send turn (length - bytes_sent)) := by
        rw [drains, dif_pos hmore, if_neg hsockopt, dif_neg herror]
      obtain ⟨stop, hrest⟩ := ih (by omega) (by omega) (by omega)
      have hfrom := hrest.from_start
      have hcall : accepted size call = span (size .header + (position + bytes_sent))
          (size .header + (position + bytes_sent + kernel.send turn (length - bytes_sent))) := by
        rw [← Int.add_assoc (size .header : Int) (position + bytes_sent)]
        rfl
      rw [hdrains]
      refine ⟨stop, by omega, hrest.within_body, ?_, ?_, hrest.whole_iff, hrest.status_eq⟩
      · intro other hmem
        rcases List.mem_cons.mp hmem with rfl | hmem
        · simp only [call]
          omega
        · exact hrest.within other hmem
      · rw [List.flatMap_cons, hrest.sent, hcall]
        exact span_append (by omega) (by omega)
  | case4 turn position length bytes_sent hdone =>
      have hdrains : drains kernel turn (length - bytes_sent) = true := by
        rw [drains, dif_neg hdone]
      rw [hdrains]
      refine ⟨position + bytes_sent, le_rfl, by omega, by simp, ?_, ?_, rfl⟩
      · rw [span_empty le_rfl]
        rfl
      · simp only [iff_true]
        omega

end Resend

section Exact

variable (kernel : Kernel)

-- How much of a text goes out at one call.
def taken (turn length : Nat) : Int := max 0 (kernel.send turn length)

def Whole (turn length : Nat) : Prop := kernel.send turn length = length

theorem send_cases (turn length : Nat) :
    (kernel.takes turn = none ∧ kernel.send turn length = -1) ∨
      (kernel.takes turn ≠ none ∧ 0 ≤ kernel.send turn length ∧
        kernel.send turn length ≤ length) := by
  unfold Kernel.send
  cases hturn : kernel.takes turn with
  | none => exact Or.inl ⟨rfl, rfl⟩
  | some more =>
      refine Or.inr ⟨by simp, ?_, ?_⟩
      · simp only
        omega
      · simp only
        omega

def responseSize (buffer : List Char) : Part → Nat
  | .header => response.length
  | .body => buffer.length

def reportSize (buffer : List Char) : Part → Nat
  | .header => (reportHeader buffer.length).length
  | .body => buffer.length

-- The first send of the body is no error, unless the socket refuses the larger
-- buffer and something was left to send. A header that goes out in part only goes
-- with a body that meets an error.
def ReplyGoesOut (buffer : List Char) : Prop :=
  (kernel.takes 1 = none →
    kernel.setsockopt 2 = false ∧ ¬ (Whole kernel 0 response.length ∧ buffer = [])) ∧
  (kernel.takes 1 ≠ none → kernel.takes 0 ≠ none → ¬ Whole kernel 0 response.length →
    drains kernel 2 (buffer.length - kernel.send 1 buffer.length) = false)

theorem accepted_send (size : Part → Nat) (part : Part) (turn length : Nat) :
    accepted size ⟨part, 0, length, kernel.send turn length⟩ =
      span (base size part) (base size part + taken kernel turn length) := by
  unfold accepted taken
  simp only [Int.add_zero]
  rcases send_cases kernel turn length with ⟨-, hsend⟩ | ⟨-, hlow, -⟩
  · rw [hsend, span_empty (by omega), span_empty (by omega)]
  · rw [max_eq_right hlow]

theorem taken_eq_iff {turn length : Nat} (hlength : 0 < length) :
    taken kernel turn length = length ↔ Whole kernel turn length := by
  unfold taken Whole
  omega

theorem taken_bounds (turn length : Nat) :
    0 ≤ taken kernel turn length ∧ taken kernel turn length ≤ length := by
  unfold taken
  rcases send_cases kernel turn length with ⟨-, hsend⟩ | ⟨-, hlow, hhigh⟩ <;> omega

-- The header, the first of the body, and what may follow.
def parts (size : Part → Nat) (rest : List SendCall) : List SendCall :=
  ⟨.header, 0, size .header, kernel.send 0 (size .header)⟩ ::
    ⟨.body, 0, size .body, kernel.send 1 (size .body)⟩ :: rest

theorem delivers_parts {size : Part → Nat} {rest : List SendCall} {status : BVIEW_STATUS}
    {stop : Int} (hwithin : ∀ call ∈ rest, 0 ≤ call.position ∧ 0 ≤ call.length ∧
      call.position + call.length ≤ size call.part)
    (hrest : rest.flatMap (accepted size) =
      span (size .header + taken kernel 1 (size .body)) (size .header + stop))
    (hstop : taken kernel 1 (size .body) ≤ stop ∧ stop ≤ size .body) :
    Delivers size (parts kernel size rest) status ↔
      (status = .SUCCESS ↔
        taken kernel 0 (size .header) = size .header ∧ stop = size .body) := by
  have hhead := taken_bounds kernel 0 (size .header)
  have hbody := taken_bounds kernel 1 (size .body)
  apply delivers_iff
  · intro call hmem
    rcases List.mem_cons.mp hmem with rfl | hmem
    · simp
    rcases List.mem_cons.mp hmem with rfl | hmem
    · simp
    exact hwithin call hmem
  · rw [parts, List.flatMap_cons, List.flatMap_cons, hrest, accepted_send, accepted_send, base,
      base, Int.zero_add, span_append (by omega) (by omega)]
  · exact hhead
  · omega

-- What the results of the first two calls make of the status.
def sendStatus (size : Part → Nat) : BVIEW_STATUS :=
  if kernel.send 1 (size .body) < 0 then .FAILURE
  else if kernel.send 0 (size .header) < 0 then .FAILURE else .SUCCESS

theorem sendStatus_success_iff (size : Part → Nat) :
    sendStatus kernel size = .SUCCESS ↔ kernel.takes 0 ≠ none ∧ kernel.takes 1 ≠ none := by
  unfold sendStatus
  rcases send_cases kernel 1 (size .body) with ⟨hbody, hsend⟩ | ⟨hbody, hsend, -⟩
  · simp [hbody, hsend]
  · rw [if_neg (by omega)]
    rcases send_cases kernel 0 (size .header) with ⟨hhead, hsend⟩ | ⟨hhead, hsend, -⟩
    · simp [hhead, hsend]
    · simp [hhead, hbody, hsend]

theorem delivers_two (size : Part → Nat) (status : BVIEW_STATUS) :
    Delivers size (parts kernel size []) status ↔
      (status = .SUCCESS ↔ taken kernel 0 (size .header) = size .header ∧
        taken kernel 1 (size .body) = size .body) := by
  have hnone : ([] : List SendCall).flatMap (accepted size) =
      span (size .header + taken kernel 1 (size .body))
        (size .header + taken kernel 1 (size .body)) := (span_empty le_rfl).symm
  exact delivers_parts kernel (by simp) hnone ⟨le_rfl, (taken_bounds kernel 1 _).2⟩

-- A call that is an error gets nothing out.
theorem not_whole {turn length : Nat} (h : kernel.takes turn = none) :
    ¬ Whole kernel turn length := by
  intro hall
  rw [Whole, Kernel.send, h] at hall
  have hlength : (-1 : Int) = length := hall
  omega

theorem reply_eq (buffer : List Char) :
    rest_send_200_with_data kernel buffer =
      let size := responseSize buffer
      let rest := resend kernel 2 0 (size .body) (kernel.send 1 (size .body))
        (sendStatus kernel size)
      (parts kernel size rest.1, rest.2) := rfl

-- An error of the first call for the body.
theorem reply_error {buffer : List Char} (hnone : kernel.takes 1 = none) :
    Delivers (responseSize buffer) (rest_send_200_with_data kernel buffer).1
        (rest_send_200_with_data kernel buffer).2 ↔
      kernel.setsockopt 2 = false ∧ ¬ (Whole kernel 0 response.length ∧ buffer = []) := by
  have hsend : kernel.send 1 (responseSize buffer .body) = -1 := by rw [Kernel.send, hnone]
  have hmore : (responseSize buffer .body : Int) - -1 > 0 := by omega
  have htaken : taken kernel 1 (responseSize buffer .body) = 0 := by rw [taken, hsend]; rfl
  have hempty : (0 : Int) = responseSize buffer .body ↔ buffer = [] := by
    rw [← List.length_eq_zero_iff, responseSize]
    omega
  have hwhole : taken kernel 0 (responseSize buffer .header) = responseSize buffer .header ↔
      Whole kernel 0 response.length :=
    taken_eq_iff kernel (show 0 < response.length by decide)
  simp only [reply_eq, hsend]
  rw [resend, dif_pos hmore]
  by_cases hsockopt : kernel.setsockopt 2 = false
  · rw [if_pos hsockopt, delivers_parts kernel (by simp) (by rw [htaken, span_empty le_rfl]; rfl)
      ⟨htaken.le, by omega⟩, hwhole, hempty]
    simp [hsockopt]
  · rw [if_neg hsockopt]
    refine iff_of_false (fun h => ?_) fun h => hsockopt h.1
    -- the first call of the loop starts in front of the body
    have hout := h.within ⟨.body, 0 + -1, responseSize buffer .body - -1,
      kernel.send 2 (responseSize buffer .body - -1)⟩ (by split <;> simp [parts])
    have hfront : (0 : Int) ≤ 0 + -1 := hout.1
    omega

theorem reply_iff (buffer : List Char) :
    Delivers (responseSize buffer) (rest_send_200_with_data kernel buffer).1
        (rest_send_200_with_data kernel buffer).2 ↔
      ReplyGoesOut kernel buffer := by
  unfold ReplyGoesOut
  rcases send_cases kernel 1 (responseSize buffer .body) with ⟨hnone, -⟩ | ⟨hsome, hlow, hhigh⟩
  · simp only [reply_error kernel hnone, hnone, forall_const, ne_eq, not_true_eq_false,
      false_implies, and_true]
  · have hsize : (0 : Int) + responseSize buffer .body = responseSize buffer .body := Int.zero_add _
    obtain ⟨stop, hrest⟩ := resend_resent kernel 2 0 (responseSize buffer .body)
      (kernel.send 1 (responseSize buffer .body)) (sendStatus kernel (responseSize buffer))
      le_rfl hsize ⟨hlow, hhigh⟩
    have hfrom := hrest.from_start
    have htaken : taken kernel 1 (responseSize buffer .body) =
        kernel.send 1 (responseSize buffer .body) := max_eq_right hlow
    have hwhole : taken kernel 0 (responseSize buffer .header) = responseSize buffer .header ↔
        Whole kernel 0 response.length :=
      taken_eq_iff kernel (show 0 < response.length by decide)
    simp only [reply_eq]
    rw [delivers_parts kernel hrest.within (by rw [hrest.sent, htaken, Int.zero_add])
      ⟨by omega, hrest.within_body⟩, hwhole, hrest.whole_iff, hrest.status_eq]
    have hlength : (responseSize buffer .body : Int) = buffer.length := rfl
    simp only [hsome, false_implies, true_and, not_false_eq_true, forall_const, ne_eq]
    rw [hlength]
    cases drains kernel 2 (buffer.length - kernel.send 1 buffer.length) with
    | false => simp
    | true =>
        simp only [if_true, sendStatus_success_iff, and_true]
        by_cases hhead : kernel.takes 0 = none
        · simp [hhead, not_whole kernel hhead]
        · simp [hhead, hsome]

theorem reportHeader_pos (length : Nat) : 0 < (reportHeader length).length := by
  have hfirst : format header [.int length] = 'P' :: format header.tail [.int length] := rfl
  rw [reportHeader, hfirst]
  exact Nat.succ_pos _

theorem delivers_nothing {size : Part → Nat} (hheader : 0 < size .header) (status : BVIEW_STATUS) :
    Delivers size [] status ↔ status ≠ .SUCCESS := by
  have hempty : ([] : List SendCall).flatMap (accepted size) =
      span 0 0 ++ span (size .header) (size .header + 0) := by
    rw [span_empty le_rfl, span_empty (by omega)]
    rfl
  rw [delivers_iff (by simp) hempty (by omega) (by omega)]
  have hshort : ¬ (0 : Int) = size .header := by omega
  simp [hshort]

-- Once the connection is there, both texts go out at one call each or one of the
-- calls is an error that leaves something unsent. Until then, what fails is told,
-- the refusal of the default client apart.
def ReportGoesOut (config : REST_CONFIG) (setup : Setup) (buffer : List Char) : Prop :=
  setup.socket = true → setup.pthread_mutex_lock = true → setup.pthread_mutex_unlock = true →
    setup.inet_pton = true →
      (setup.connect = false → isDefaultClient config = false) ∧
      (setup.connect = true →
        (kernel.takes 0 ≠ none → kernel.takes 1 ≠ none →
          Whole kernel 0 (reportHeader buffer.length).length ∧ Whole kernel 1 buffer.length) ∧
        (kernel.takes 1 = none →
          ¬ (Whole kernel 0 (reportHeader buffer.length).length ∧ buffer = [])))

theorem report_sent_iff (buffer : List Char) :
    Delivers (reportSize buffer) (parts kernel (reportSize buffer) [])
        (sendStatus kernel (reportSize buffer)) ↔
      (kernel.takes 0 ≠ none → kernel.takes 1 ≠ none →
          Whole kernel 0 (reportHeader buffer.length).length ∧ Whole kernel 1 buffer.length) ∧
        (kernel.takes 1 = none →
          ¬ (Whole kernel 0 (reportHeader buffer.length).length ∧ buffer = [])) := by
  have hempty : (0 : Int) = reportSize buffer .body ↔ buffer = [] := by
    rw [← List.length_eq_zero_iff, reportSize]
    omega
  have hwhole : taken kernel 0 (reportSize buffer .header) = reportSize buffer .header ↔
      Whole kernel 0 (reportHeader buffer.length).length :=
    taken_eq_iff kernel (reportHeader_pos buffer.length)
  rw [delivers_two, hwhole, sendStatus_success_iff]
  rcases send_cases kernel 1 (reportSize buffer .body) with ⟨hnone, hsend⟩ | ⟨hsome, hlow, -⟩
  · have htaken : taken kernel 1 (reportSize buffer .body) = 0 := by rw [taken, hsend]; rfl
    simp [hnone, htaken, hempty]
  · have htaken : taken kernel 1 (reportSize buffer .body) = reportSize buffer .body ↔
        Whole kernel 1 buffer.length := by
      rw [taken, max_eq_right hlow]
      rfl
    rw [htaken]
    by_cases hhead : kernel.takes 0 = none
    · simp [hsome, hhead, not_whole kernel hhead]
    · simp [hsome, hhead]

theorem report_iff (config : REST_CONFIG) (setup : Setup) (buffer : List Char) :
    Delivers (reportSize buffer) (rest_send_async_report kernel config setup buffer).1
        (rest_send_async_report kernel config setup buffer).2 ↔
      ReportGoesOut kernel config setup buffer := by
  have hheader : 0 < reportSize buffer .header := reportHeader_pos buffer.length
  have hnothing := delivers_nothing hheader
  have hsent := report_sent_iff kernel buffer
  unfold rest_send_async_report ReportGoesOut
  by_cases hsocket : setup.socket = true
  · by_cases hlock : setup.pthread_mutex_lock = true
    · by_cases hunlock : setup.pthread_mutex_unlock = true
      · by_cases hpton : setup.inet_pton = true
        · by_cases hconnect : setup.connect = true
          · simp only [hsocket, hlock, hunlock, hpton, hconnect, not_true_eq_false, if_false,
              false_and, forall_const, true_and, Bool.true_eq_false, false_implies]
            exact hsent
          · cases hdefault : isDefaultClient config with
            | false => simp [hsocket, hlock, hunlock, hpton, hconnect, hnothing]
            | true => simp [hsocket, hlock, hunlock, hpton, hconnect, hnothing]
        · simp [hsocket, hlock, hunlock, hpton, hnothing]
      · simp [hsocket, hlock, hunlock, hnothing]
    · simp [hsocket, hlock, hnothing]
  · simp [hsocket, hnothing]

-- Replies and reports arrive as they should exactly under these conditions on
-- what the kernel answers.
theorem data_send_exact (config : REST_CONFIG) (setup : Setup) (buffer : List Char) :
    (Delivers (responseSize buffer) (rest_send_200_with_data kernel buffer).1
        (rest_send_200_with_data kernel buffer).2 ↔ ReplyGoesOut kernel buffer) ∧
      (Delivers (reportSize buffer) (rest_send_async_report kernel config setup buffer).1
        (rest_send_async_report kernel config setup buffer).2 ↔
          ReportGoesOut kernel config setup buffer) :=
  ⟨reply_iff kernel buffer, report_iff kernel config setup buffer⟩

-- Every call but the first for the body is served in full.
def interrupted : Kernel where
  takes := fun turn => if turn = 1 then none else some 4096
  setsockopt := fun _ => true

-- The call after the error is for a byte in front of the body and all of it.
theorem interrupted_reply :
    ¬ Delivers (responseSize "{}".toList) (rest_send_200_with_data interrupted "{}".toList).1
      (rest_send_200_with_data interrupted "{}".toList).2 := by
  intro h
  have hgoes := (reply_iff interrupted _).mp h
  have hsockopt := (hgoes.1 rfl).1
  cases hsockopt

end Exact

end BroadView.Rest.Client
