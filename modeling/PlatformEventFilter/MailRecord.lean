/-
# `MailRecord` — what `LastBMCProcessedEventID` stands for

The record id is written once `sendSmtpAlert` has returned 0.  With the retry
mode off that is the status in the reply of `SendMail`; with the retry mode on
it is the initial value of a variable which the answer of the retry queue is
never stored in.

A run is a list of calls of `pefTask`, each with the answers it gets.  Its
trace is read as a sequence of

    plain calls    everything else
    mails          a mail that is not answered by an error, and the record
                   behind it

(`MailTrace`), from which both directions of the result are inductions.
-/
import PlatformEventFilter.Lookups

namespace Pef

/-! ## Runs -/

/-- One call of `pefTask`, with the answers it gets. -/
structure TaskCall where
  retryEnable : Bool
  recId : U16
  senType : U8
  senNum : U8
  eveType : U8
  eveData1 : U8
  eveData2 : U8
  eveData3 : U8
  genId : U16
  msgStr : String
  env : Env

/-- The calls it makes. -/
def TaskCall.asked (e : TaskCall) : List Call :=
  (pefTask e.retryEnable e.recId e.senType e.senNum e.eveType e.eveData1 e.eveData2 e.eveData3
    e.genId e.msgStr).asked e.env

/-- The calls of a run, each with the call of `pefTask` that makes it. -/
def trace (run : List TaskCall) : List (TaskCall × Call) :=
  run.flatMap fun e => e.asked.map (e, ·)

/-- A mail for record `r` is handed over: the reply of `SendMail` carries
status 0, or the retry queue takes the mail. -/
def HandedOver (r : U16) : TaskCall × Call → Prop
  | (e, .sendMail s subject body) =>
      e.recId = r ∧ e.retryEnable = false ∧ e.env (.sendMail s subject body) = some 0
  | (e, .retrySmtp s subject body) =>
      e.recId = r ∧ e.retryEnable = true ∧ e.env (.retrySmtp s subject body) = some true
  | _ => False

/-- The retry queue does not take the mail. -/
def Refused : TaskCall × Call → Prop
  | (e, .retrySmtp s subject body) => e.env (.retrySmtp s subject body) = some false
  | _ => False

/-- A record id is written behind a mail for that record only. -/
def Truthful (run : List TaskCall) : Prop :=
  ∀ pre e s r post, trace run = pre ++ (e, .lastBMCProcessedEventID s r) :: post →
    ∃ x ∈ pre, HandedOver r x

/-! ## The shape of a trace -/

/-- The call is neither a record nor a mail the retry queue answers to. -/
def Plain (env : Env) : Call → Prop
  | .lastBMCProcessedEventID .. => False
  | .retrySmtp s subject body => env (.retrySmtp s subject body) = none
  | _ => True

/-- The mail for which `sendSmtpAlert` returns 0. -/
inductive Mailed (retryEnable : Bool) (env : Env) (s : Site) : Call → Prop
  | queued {subject body : String} {taken : Bool} (hretry : retryEnable = true)
      (h : env (.retrySmtp s subject body) = some taken) :
      Mailed retryEnable env s (.retrySmtp s subject body)
  | sent {subject body : String} (hretry : retryEnable = false)
      (h : env (.sendMail s subject body) = some 0) :
      Mailed retryEnable env s (.sendMail s subject body)

/-- Plain calls, and mails with the record behind them. -/
inductive MailTrace : List (TaskCall × Call) → Prop
  | nil : MailTrace []
  | plain {e : TaskCall} {q : Call} {t : List (TaskCall × Call)} (hq : Plain e.env q)
      (ht : MailTrace t) : MailTrace ((e, q) :: t)
  | mail {e : TaskCall} {s : Site} {q : Call} {t : List (TaskCall × Call)}
      (hq : Mailed e.retryEnable e.env s q) (ht : MailTrace t) :
      MailTrace ((e, q) :: (e, .lastBMCProcessedEventID s e.recId) :: t)

theorem MailTrace.append {t u : List (TaskCall × Call)} (ht : MailTrace t) (hu : MailTrace u) :
    MailTrace (t ++ u) := by
  induction ht with
  | nil => exact hu
  | plain hq _ ih => exact .plain hq ih
  | mail hq _ ih => exact .mail hq ih

theorem plain_of_isLookup {env : Env} {q : Call} (h : q.isLookup = true) : Plain env q := by
  cases q <;> trivial

/-- Behind a mail the retry queue answers to stands the record. -/
theorem MailTrace.record_of_answered {t : List (TaskCall × Call)} (ht : MailTrace t)
    {pre post : List (TaskCall × Call)} {e : TaskCall} {s : Site} {subject body : String}
    {taken : Bool} (hsplit : t = pre ++ (e, .retrySmtp s subject body) :: post)
    (h : e.env (.retrySmtp s subject body) = some taken) :
    ∃ post', post = (e, .lastBMCProcessedEventID s e.recId) :: post' := by
  induction ht generalizing pre with
  | nil => exact absurd hsplit.symm (List.append_ne_nil_of_right_ne_nil _ (List.cons_ne_nil _ _))
  | plain hq _ ih =>
      cases pre with
      | nil =>
          cases hsplit
          rw [Plain, h] at hq
          cases hq
      | cons x pre =>
          cases hsplit
          exact ih rfl
  | mail hq _ ih =>
      rcases pre with _ | ⟨x, _ | ⟨y, pre⟩⟩
      · cases hsplit
        cases hq with
        | queued => exact ⟨_, rfl⟩
      · cases hsplit
      · cases hsplit
        exact ih rfl

theorem MailTrace.mailed_of_record {t : List (TaskCall × Call)} (ht : MailTrace t)
    {pre post : List (TaskCall × Call)} {e : TaskCall} {s : Site} {r : U16}
    (hsplit : t = pre ++ (e, .lastBMCProcessedEventID s r) :: post) :
    r = e.recId ∧ ∃ pre' q, pre = pre' ++ [(e, q)] ∧ Mailed e.retryEnable e.env s q := by
  induction ht generalizing pre with
  | nil => exact absurd hsplit.symm (List.append_ne_nil_of_right_ne_nil _ (List.cons_ne_nil _ _))
  | plain hq _ ih =>
      cases pre with
      | nil =>
          cases hsplit
          exact hq.elim
      | cons x pre =>
          cases hsplit
          obtain ⟨hr, pre', q, rfl, hmail⟩ := ih rfl
          exact ⟨hr, _ :: pre', q, rfl, hmail⟩
  | @mail e' s' q' t' hq _ ih =>
      rcases pre with _ | ⟨x, _ | ⟨y, pre⟩⟩
      · cases hsplit
        cases hq
      · cases hsplit
        exact ⟨rfl, [], q', rfl, hq⟩
      · cases hsplit
        obtain ⟨hr, pre', q, rfl, hmail⟩ := ih rfl
        exact ⟨hr, _ :: _ :: pre', q, rfl, hmail⟩

/-! ## One call of `pefTask` -/

section Task

variable {e : TaskCall}

/-- The calls of a computation are a trace. -/
abbrev Traces {α : Type} (e : TaskCall) (p : Prog α) : Prop :=
  p.Traced (fun t => MailTrace (t.map (e, ·))) e.env

theorem joinable_mailTrace (e : TaskCall) :
    Ask.Joinable fun t : List Call => MailTrace (t.map (e, ·)) where
  nil := .nil
  append hs ht := by
    rw [List.map_append]
    exact hs.append ht

theorem MailTrace.of_plain {t : List Call} (h : ∀ q ∈ t, Plain e.env q) :
    MailTrace (t.map (e, ·)) := by
  induction t with
  | nil => exact .nil
  | cons q t ih =>
      exact .plain (h q List.mem_cons_self) (ih fun x hx => h x (List.mem_cons_of_mem q hx))

theorem traces_of_plain {α : Type} {p : Prog α} (h : p.Only (Plain e.env) e.env) : Traces e p :=
  MailTrace.of_plain h

theorem traces_of_lookup {α : Type} {p : Prog α} (h : Lookup p e.env) : Traces e p :=
  traces_of_plain (h.mono fun _ => plain_of_isLookup)

/-- How the sending of a mail goes.  Either its last call is the mail, and the
status is 0, or the status is not 0. -/
def Sends (e : TaskCall) (s : Site) (p : Prog U16) : Prop :=
  (∃ t q, p.asked e.env = t ++ [q] ∧ (∀ x ∈ t, Plain e.env x) ∧
      Mailed e.retryEnable e.env s q ∧ p.outcome e.env = .ok 0) ∨
    p.Only (Plain e.env) e.env ∧ p.outcome e.env ≠ .ok 0

theorem sends_pure {s : Site} {status : U16} (h : status ≠ 0) : Sends e s (pure status) :=
  Or.inr ⟨Ask.Only.pure, fun heq => h (Except.ok.inj heq)⟩

theorem Sends.lookup_bind {α : Type} {s : Site} {p : Prog α} {f : α → Prog U16}
    (hp : Lookup p e.env) (hf : ∀ a, Sends e s (f a)) : Sends e s (p >>= f) := by
  have hplain : ∀ q ∈ p.asked e.env, Plain e.env q := fun q hq => plain_of_isLookup (hp q hq)
  cases ha : p.outcome e.env with
  | error x =>
      refine Or.inr ⟨?_, ?_⟩
      · intro q hq
        rw [Ask.asked_bind_error e.env ha] at hq
        exact hplain q hq
      · rw [Ask.outcome_bind_error e.env ha]
        exact fun h => nomatch h
  | ok a =>
      rcases hf a with ⟨t, q, ht, hlook, hq, hstatus⟩ | ⟨honly, hstatus⟩
      · refine Or.inl ⟨p.asked e.env ++ t, q, ?_, ?_, hq, ?_⟩
        · rw [Ask.asked_bind_ok e.env ha, ht, List.append_assoc]
        · intro x hx
          exact (List.mem_append.mp hx).elim (hplain x) (hlook x)
        · rw [Ask.outcome_bind_ok e.env ha, hstatus]
      · refine Or.inr ⟨?_, ?_⟩
        · intro x hx
          rw [Ask.asked_bind_ok e.env ha] at hx
          exact (List.mem_append.mp hx).elim (hplain x) (honly x)
        · rw [Ask.outcome_bind_ok e.env ha]
          exact hstatus

theorem Sends.catchSdbusplus {s : Site} {p : Prog U16} {status : U16} (h0 : status ≠ 0)
    (hp : Sends e s p) : Sends e s (Pef.catchSdbusplus p (pure status)) := by
  rcases hp with ⟨t, q, ht, hplain, hq, hstatus⟩ | ⟨honly, hstatus⟩
  · refine Or.inl ⟨t, q, ?_, hplain, hq, outcome_catchSdbusplus_ok hstatus⟩
    rw [asked_catchSdbusplus_ok hstatus, ht]
  · refine Or.inr ⟨only_catchSdbusplus honly Ask.Only.pure, fun h => ?_⟩
    rcases outcome_catchSdbusplus_eq_ok h with h | h
    · exact hstatus h
    · exact h0 (Except.ok.inj h)

theorem sends_retrySmtp (s : Site) (subject body : String) (hretry : e.retryEnable = true) :
    Sends e s (call (.retrySmtp s subject body) >>= fun o => reply o >>= fun _ => pure 0) := by
  cases ho : e.env (.retrySmtp s subject body) with
  | none =>
      refine Or.inr ⟨?_, ?_⟩
      · exact Ask.Only.bind (Ask.Only.ask ho) fun _ _ =>
          Ask.Only.bind only_reply fun _ _ => Ask.Only.pure
      · rw [Ask.outcome_ask_bind, ho]
        exact fun h => nomatch h
  | some taken =>
      refine Or.inl ⟨[], _, ?_, fun _ h => absurd h List.not_mem_nil, .queued hretry ho, ?_⟩
      · rw [Ask.asked_ask_bind, ho]
        rfl
      · rw [Ask.outcome_ask_bind, ho]
        rfl

theorem sends_sendMail (s : Site) (subject body : String) (hretry : e.retryEnable = false) :
    Sends e s (call (.sendMail s subject body) >>= fun o => reply o) := by
  have honly : (call (.sendMail s subject body) >>= fun o => reply o).Only (Plain e.env) e.env :=
    Ask.Only.bind (Ask.Only.ask trivial) fun _ _ => only_reply
  cases ho : e.env (.sendMail s subject body) with
  | none =>
      refine Or.inr ⟨honly, ?_⟩
      rw [Ask.outcome_ask_bind, ho]
      exact fun h => nomatch h
  | some status =>
      by_cases h0 : status = 0
      · subst h0
        refine Or.inl ⟨[], _, ?_, fun _ h => absurd h List.not_mem_nil, .sent hretry ho, ?_⟩
        · rw [Ask.asked_ask_bind, ho]
          rfl
        · rw [Ask.outcome_ask_bind, ho]
          rfl
      · refine Or.inr ⟨honly, ?_⟩
        rw [Ask.outcome_ask_bind, ho]
        exact fun h => h0 (Except.ok.inj h)

theorem sends_sendSmtpAlert (s : Site) (event : EventMsgData) (smtpMailID : String) :
    Sends e s (sendSmtpAlert e.retryEnable s event smtpMailID) := by
  have hfailed : (0xFFFF : U16) ≠ 0 := by decide
  refine Sends.lookup_bind (lookup_getPathFromSensorNumber s _) fun path => ?_
  refine Sends.lookup_bind (lookup_mailSubject s event) fun subject => ?_
  refine Sends.lookup_bind (lookup_mailBody s event _ _) fun body => ?_
  split
  · exact sends_pure hfailed
  · refine Sends.catchSdbusplus hfailed ?_
    cases hretry : e.retryEnable with
    | true =>
        refine Sends.lookup_bind (lookup_isMailAlertConfigured s) fun configured => ?_
        cases configured with
        | true => exact sends_retrySmtp s subject body hretry
        | false => exact sends_pure hfailed
    | false => exact sends_sendMail s subject body hretry

theorem traces_mailAlert (s : Site) (event : EventMsgData) (user : String)
    (hrecord : event.recordId = e.recId) : Traces e (mailAlert e.retryEnable s event user) := by
  refine (joinable_mailTrace e).bind (traces_of_lookup (lookup_getSmtpMailID s user))
    fun smtpMailID _ => ?_
  rw [Ask.Traced, Ask.asked_bind]
  rcases sends_sendSmtpAlert s event (smtpMailID.getD "") with
    ⟨t, q, ht, hplain, hq, hstatus⟩ | ⟨honly, hstatus⟩
  · have hwrite : (catchAll (do reply (← call (.lastBMCProcessedEventID s event.recordId)))
        (pure ())).asked e.env = [.lastBMCProcessedEventID s event.recordId] := by
      rw [catchAll, Ask.asked_catching, Ask.asked_ask_bind, asked_reply]
      cases Ask.outcome _ e.env <;> rfl
    rw [hstatus, ht]
    dsimp only
    rw [if_pos rfl, hwrite, List.append_assoc, List.map_append, hrecord]
    exact (MailTrace.of_plain hplain).append (.mail hq .nil)
  · have hnone : ∀ status, (sendSmtpAlert e.retryEnable s event (smtpMailID.getD "")).outcome
        e.env = .ok status → status ≠ 0 := fun status h h0 => hstatus (h0 ▸ h)
    cases ho : (sendSmtpAlert e.retryEnable s event (smtpMailID.getD "")).outcome e.env with
    | error x =>
        dsimp only
        rw [List.append_nil]
        exact traces_of_plain honly
    | ok status =>
        dsimp only
        rw [if_neg (hnone status ho), Ask.asked_pure, List.append_nil]
        exact traces_of_plain honly

theorem traces_policyAction (cfg : PefCfgInfo) (event : EventMsgData) (ethMap : EthChannelMap)
    (s : Site) (policy : AlertPolicyTbl) (hrecord : event.recordId = e.recId) :
    Traces e (policyAction e.retryEnable cfg event ethMap s policy) := by
  have hS := joinable_mailTrace e
  unfold policyAction
  split
  · exact hS.pure
  refine hS.bind (traces_of_lookup (lookup_destinationFor s ethMap policy)) fun d _ => ?_
  cases d with
  | none => exact hS.pure
  | some d =>
      have hlog : Lookup (logAction cfg s.entryIdx (some s.policyIdx) ALERT_ACTION) e.env :=
        lookup_logAction cfg s.entryIdx (some s.policyIdx) ALERT_ACTION
      dsimp only
      split
      · exact hS.bind (traces_of_lookup hlog) fun _ _ => traces_mailAlert s event d.2 hrecord
      · split
        · refine hS.bind (traces_of_lookup hlog) fun _ _ => ?_
          refine hS.bind (traces_of_plain ?_) fun _ _ => hS.pure
          refine (calls_sendSNMPAlert e.retryEnable s event _ _).mono fun q hq => ?_
          rcases hq with hq | ⟨_, _, rfl⟩ | ⟨_, rfl⟩
          · exact plain_of_isLookup hq
          · trivial
          · trivial
        · exact hS.pure

theorem traces_performPefAction (M : List EvtFilterTblEntry) (event : EventMsgData)
    (ethMap : EthChannelMap) (cfg : PefCfgInfo) (hrecord : event.recordId = e.recId) :
    Traces e (performPefAction e.retryEnable M event ethMap cfg) := by
  have hS := joinable_mailTrace e
  refine hS.forIdx fun i entry _ => hS.bind (traces_of_plain ?_) fun _ _ => ?_
  · refine (calls_powerAction cfg i entry).mono fun q hq => ?_
    rcases hq with hq | ⟨_, rfl⟩ | ⟨_, rfl⟩
    · exact plain_of_isLookup hq
    · trivial
    · trivial
  · unfold alertAction
    split
    · refine hS.bind (traces_of_lookup (lookup_checkAlertPoicyTbl i _)) fun ps _ => ?_
      exact hS.forIdx fun j policy _ => traces_policyAction cfg event ethMap ⟨i, j⟩ policy hrecord
    · exact hS.pure

theorem traces_pefTask (e : TaskCall) :
    Traces e (pefTask e.retryEnable e.recId e.senType e.senNum e.eveType e.eveData1 e.eveData2
      e.eveData3 e.genId e.msgStr) := by
  have hS := joinable_mailTrace e
  refine hS.bind (traces_of_lookup (lookup_byteProperty (lookup_call rfl))) fun pefCtl _ => ?_
  cases pefCtl with
  | none => exact hS.pure
  | some pefCtl =>
      refine hS.bind (traces_of_lookup (lookup_byteProperty (lookup_call rfl))) fun timer _ => ?_
      cases timer with
      | none => exact hS.pure
      | some timer =>
          dsimp only
          split
          · exact hS.pure
          · split
            · exact hS.pure
            · refine hS.bind (traces_of_lookup (lookup_matchedEntries _)) fun M _ => ?_
              split
              · exact hS.pure
              · refine hS.bind (traces_of_lookup
                  (lookup_getEthChannelInterfaceMap (lookup_call rfl))) fun ethMap _ => ?_
                refine hS.bind (traces_of_lookup lookup_getPefConfInfo) fun cfg _ => ?_
                cases cfg with
                | none => exact hS.pure
                | some cfg => exact traces_performPefAction M _ ethMap cfg rfl

end Task

/-! ## Whole runs -/

theorem mailTrace_trace (run : List TaskCall) : MailTrace (trace run) := by
  induction run with
  | nil => exact .nil
  | cons e run ih => exact (traces_pefTask e).append ih

/-- The records of a run are truthful exactly when each mail that the retry
queue refuses comes after one for the same record that was handed over. -/
theorem lastBMCProcessedEventID_truthful_iff (run : List TaskCall) :
    Truthful run ↔
      ∀ pre x post, trace run = pre ++ x :: post → Refused x →
        ∃ y ∈ pre, HandedOver x.1.recId y := by
  have htrace := mailTrace_trace run
  constructor
  · rintro htruthful pre ⟨e, q⟩ post hsplit hrefused
    cases q with
    | retrySmtp s subject body =>
        obtain ⟨post', rfl⟩ := htrace.record_of_answered hsplit hrefused
        -- the record is written behind the mail, so its mail stands before that
        have hsplit' : trace run = (pre ++ [(e, .retrySmtp s subject body)]) ++
            (e, .lastBMCProcessedEventID s e.recId) :: post' := by
          rw [hsplit, List.append_assoc]
          rfl
        obtain ⟨y, hy, hhanded⟩ := htruthful _ e s e.recId post' hsplit'
        rcases List.mem_append.mp hy with hy | hy
        · exact ⟨y, hy, hhanded⟩
        · rw [List.mem_singleton.mp hy] at hhanded
          have htaken := hhanded.2.2
          rw [hrefused] at htaken
          cases htaken
    | _ => exact hrefused.elim
  · intro hbefore pre e s r post hsplit
    obtain ⟨rfl, pre', q, rfl, hmail⟩ := htrace.mailed_of_record hsplit
    cases hmail with
    | @queued subject body taken hretry h =>
        cases taken with
        | true => exact ⟨_, List.mem_append_right _ List.mem_cons_self, rfl, hretry, h⟩
        | false =>
            rw [List.append_assoc] at hsplit
            obtain ⟨y, hy, hhanded⟩ := hbefore pre' _ _ hsplit h
            exact ⟨y, List.mem_append_left _ hy, hhanded⟩
    | @sent subject body hretry h =>
        exact ⟨_, List.mem_append_right _ List.mem_cons_self, rfl, hretry, h⟩

/-- A row that matches every event and asks for an alert of group 1. -/
def alertRow : EventFilterList
  | .filterConfig => [0x80]
  | .evtFilterAction => [0x01]
  | .alertPolicyNum => [0x01]
  | .eventData1OffsetMask => [0xFFFF]
  | .genIdByte1 => [0xFF]
  | .genIdByte2 => [0xFF]
  | .sensorType => [0xFF]
  | .sensorNum => [0xFF]
  | .eventTrigger => [0xFF]
  | _ => [0]

/-- One row, one policy, one mail destination, a mail service that is set up,
and a retry queue that is full. -/
def fullQueueEnv : Env
  | .pefControl => some (.u8 0x01)
  | .armPefPostponeTmr => some (.u8 0x00)
  | .eventFilterPaths => some [eventFilterTableObj ++ "/List1"]
  | .eventFilterProperties _ => some (filterProperties alertRow)
  | .channelInterfaceMap => some [(1, "eth0")]
  | .pefConfInfo => some [("PEFControl", .u8 0x01), ("PEFActionGblControl", .u8 0x01),
      ("PEFStartupDly", .u8 0), ("PEFAlertStartupDly", .u8 0)]
  | .alertPolicyPaths _ => some [alertPolicyTableObj ++ "/Entry1"]
  | .alertPolicyProperties .. => some [("AlertPolicyGroupNum", .u8s [1]), ("EnableAlert", .u8s [1]),
      ("ChannelNo", .u8s [1]), ("DestinationSel", .u8s [1])]
  | .lanParam .. => some [("Type", .u8s [3, 0]), ("userName", .strs ["admin"])]
  | .smtpMailID .. => some (.str "admin@example")
  | .hostName _ => some (.str "bmc")
  | .mailProperty _ _ "Enable" => some (.bool true)
  | .mailProperty .. => some (.str "mail.example")
  | .resolveHost .. => true
  | .retrySmtp .. => some false
  | q => Env.dead q

/-- With the retry mode on and a full queue the record is written for a mail
that nobody has. -/
theorem refused_mail_recorded :
    ¬ Truthful [⟨true, 7, 1, 1, 1, 0, 0, 0, 0x0020, "", fullQueueEnv⟩] := by
  intro h
  let e : TaskCall := ⟨true, 7, 1, 1, 1, 0, 0, 0, 0x0020, "", fullQueueEnv⟩
  have hlast : e.asked.getLast? = some (.lastBMCProcessedEventID ⟨0, 0⟩ 7) := by decide +kernel
  obtain ⟨calls, hcalls⟩ := List.getLast?_eq_some_iff.mp hlast
  have hsplit : trace [e] =
      calls.map (e, ·) ++ (e, .lastBMCProcessedEventID ⟨0, 0⟩ 7) :: [] := by
    rw [trace, List.flatMap_singleton, hcalls, List.map_append]
    rfl
  obtain ⟨⟨e', q⟩, hmem, hhanded⟩ := h _ e ⟨0, 0⟩ 7 [] hsplit
  obtain ⟨_, -, heq⟩ := List.mem_map.mp hmem
  cases heq
  cases q with
  | retrySmtp s subject body =>
      have htaken : some false = some true := hhanded.2.2
      cases htaken
  | sendMail s subject body =>
      have hretry : true = false := hhanded.2.1
      cases hretry
  | _ => exact hhanded

end Pef
