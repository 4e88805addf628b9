import Telemetry.Pattern.Standard
import Telemetry.Proofs.Component.Desk
import Telemetry.Proofs.Component.Kinds

/-!
What event buses count, whoever of them does it. What is counted for all messages is the sum of what
is counted for local and for remote ones. Pending are the handlers that messages were meant for,
less those that began with one. Handlers are there until they are unregistered, and those of one
node share a timer.
-/

namespace Telemetry.Component

open Desk (Enters Recordable entered)
open Registry (Books)
open Setup (Leads)

variable {S : Schema} {base : MetricName} {r r' : Registry} {held : List (MetricName × MetricId)}
  {log : List (MetricName × BitVec 64)}

/-- What is counted in all and for each side. -/
inductive Lane
  | pending
  | received
  | delivered
  | sent
  | published
deriving DecidableEq

def Lane.text : Lane → String
  | .pending => "pending"
  | .received => "received"
  | .delivered => "delivered"
  | .sent => "sent"
  | .published => "published"

def Lane.kind : Lane → Kind
  | .pending => .counter
  | _ => .throughputMeter

def Lane.side (l : Lane) (isLocal : Bool) : String :=
  l.text ++ if isLocal then "-local" else "-remote"

theorem leads_message {L : Layout} {path : String} {kind : Kind} (word : String)
    (hs : S.Agrees (L.schema base)) (hk : L.kindBelow path [] = some kind)
    (hc : compose base path = .ok (base.below ["messages", word])) :
    Leads (Books S held log) (Setup.metric base path kind) fun id =>
      Books S (held ++ [(base.below ["messages", word], id)]) log := .metricAt hs hk hc

/-! ### Traffic -/

namespace Traffic

def handles (base : MetricName) (l : Lane) (t : Traffic) : List (MetricName × MetricId) :=
  [(base.below ["messages", l.text], t.all), (base.below ["messages", l.side true], t.near),
    (base.below ["messages", l.side false], t.far)]

theorem leads_new {L : Layout} {path : String} (l : Lane) (hs : S.Agrees (L.schema base))
    (all : L.kindBelow path [] = some .throughputMeter)
    (near : L.kindBelow (path ++ "-local") [] = some .throughputMeter)
    (far : L.kindBelow (path ++ "-remote") [] = some .throughputMeter)
    (hall : compose base path = .ok (base.below ["messages", l.text]))
    (hnear : compose base (path ++ "-local") = .ok (base.below ["messages", l.side true]))
    (hfar : compose base (path ++ "-remote") = .ok (base.below ["messages", l.side false])) :
    Leads (Books S held log) (new base path) fun t => Books S (held ++ t.handles base l) log := by
  refine .bind (leads_message l.text hs all hall) fun all => ?_
  refine .bind (leads_message (l.side true) hs near hnear) fun near => ?_
  refine .bind (leads_message (l.side false) hs far hfar) fun far => ?_
  exact .pure fun r books => by simpa [handles] using books

end Traffic

theorem ofInt_toNat (n : UInt64) : BitVec.ofInt 64 n.toNat = n.toBitVec := by
  rw [BitVec.ofInt_natCast]
  exact BitVec.ofNat_toNat ..

def wordPath (word : String) : List Node := [.escape "messages", .escape word]

/-- An amount for one side, which is also one for all. -/
def sided (l : Lane) (isLocal : Bool) (n : Int) : List (List Node × Int) :=
  [(wordPath l.text, n), (wordPath (l.side isLocal), n)]

theorem Traffic.enters {t : Traffic} {L : Layout} {e : Event} {n : Int}
    {asked : List (MetricName × MetricId)} {amounts : List (MetricName × BitVec 64)} (l : Lane)
    (kind : Kind) (isLocal : Bool)
    (h : Enters (L.schema base) held log asked amounts r) (known : t.handles base l ⊆ held)
    (hk : ∀ w ∈ [l.text, l.side true, l.side false], L ((wordPath w).map Node.text) = some kind)
    (suits : e.suits kind) (amount : e.amount = .ofInt 64 n) :
    Enters (L.schema base) held log asked (amounts ++ entered base (sided l isLocal n))
      (r.recordAll [(t.all, e), (t.side isLocal, e)]) := by
  have taken (w : String) (id : MetricId) (hw : w ∈ [l.text, l.side true, l.side false])
      (hm : (base.below ["messages", w], id) ∈ t.handles base l) :
      Recordable (L.schema base) (held ++ asked) (base.below ["messages", w]) id e :=
    .below (hk w hw) (List.mem_append_left _ (known hm)) suits
  have all := taken l.text t.all (by simp) (by simp [handles])
  have one := taken (l.side isLocal) (t.side isLocal) (by cases isLocal <;> simp)
    (by cases isLocal <;> simp [handles, side])
  have both := (h.record all).record one
  rw [List.append_assoc, amount] at both
  exact both

namespace EventBus

/-! ### What is done -/

inductive Deed
  | registered (node? : Option Node)
  | unregistered
  | sent (publish isLocal : Bool)
  | received (isLocal : Bool) (handlers : UInt64)
  | begun (isLocal : Bool)
  | ended (node? : Option Node)
  | bytesRead (n : UInt64)
  | bytesWritten (n : UInt64)
  | replyFailure
deriving DecidableEq

theorem traffic_of_mem_handles {l : Lane} {t : Traffic} {e : MetricName × MetricId}
    (h : e ∈ t.handles base l) : ∃ w, e.1 = base.below ["messages", w] := by
  simp only [Traffic.handles, List.mem_cons, List.not_mem_nil, or_false] at h
  rcases h with rfl | rfl | rfl <;> exact ⟨_, rfl⟩

variable [Pattern.Engine]

/-- A handler, with the event bus that it was registered at, or a message under way. -/
abbrev Token := (EventBus × Handler) ⊕ Handling

/-- The node that the address of a handler maps to where it was registered. -/
def nodeOf? (h : EventBus × Handler) : Option Node := h.1.rules.node? h.2.address

/-- A call of an event bus, with the tokens that it takes and those that it gives. Handlers are only
lent to those that begin or end with a message. -/
inductive Acts (c : EventBus) (r : Registry) :
    Deed → List Token → List Token → Registry → Prop
  | registered (address : String) :
    Acts c r (.registered (c.rules.node? address)) [] [.inl (c, (c.handlerRegistered address r).1)]
      (c.handlerRegistered address r).2
  | unregistered (h : EventBus × Handler) :
    Acts c r .unregistered [.inl h] [] (c.handlerUnregistered r)
  | sent (publish isLocal : Bool) :
    Acts c r (.sent publish isLocal) [] [] (c.messageSent publish isLocal r)
  | received (isLocal : Bool) (handlers : UInt64) :
    Acts c r (.received isLocal handlers) [] [] (c.messageReceived isLocal handlers r)
  | begun (h : EventBus × Handler) (isLocal : Bool) :
    Acts c r (.begun isLocal) [.inl h] [.inl h, .inr (c.beginHandleMessage isLocal r).1]
      (c.beginHandleMessage isLocal r).2
  | ended (h : EventBus × Handler) (m : Handling) :
    Acts c r (.ended (nodeOf? h)) [.inl h, .inr m] [.inl h] (endHandleMessage h.2 m r)
  | bytesRead (n : UInt64) : Acts c r (.bytesRead n) [] [] (c.messageRead n r)
  | bytesWritten (n : UInt64) : Acts c r (.bytesWritten n) [] [] (c.messageWritten n r)
  | replyFailure : Acts c r .replyFailure [] [] (c.replyFailure r)

/-- Pending messages are counted on the same two sides. -/
def allPending (c : EventBus) : Traffic := ⟨c.pending, c.pendingLocal, c.pendingRemote⟩

def handles (c : EventBus) : List (MetricName × MetricId) :=
  [(c.base.below ["handlers"], c.handlers),
    (c.base.below ["messages", "bytes-read"], c.bytesRead),
    (c.base.below ["messages", "bytes-written"], c.bytesWritten)] ++
  c.allPending.handles c.base .pending ++
  c.received.handles c.base .received ++ c.delivered.handles c.base .delivered ++
  c.sent.handles c.base .sent ++ c.published.handles c.base .published ++
  [(c.base.below ["messages", "reply-failures"], c.replyFailures)]

theorem traffic_subset_handles (c : EventBus) :
    c.allPending.handles c.base .pending ⊆ c.handles ∧
      c.received.handles c.base .received ⊆ c.handles ∧
      c.delivered.handles c.base .delivered ⊆ c.handles ∧
      c.sent.handles c.base .sent ⊆ c.handles ∧
      c.published.handles c.base .published ⊆ c.handles := by
  refine ⟨?_, ?_, ?_, ?_, ?_⟩ <;> intro e h <;> simp [handles, h]

theorem name_of_mem_handles {c : EventBus} {e : MetricName × MetricId} (h : e ∈ c.handles) :
    e.1 = c.base.below ["handlers"] ∨ ∃ w, e.1 = c.base.below ["messages", w] := by
  simp only [handles, List.mem_append, List.mem_cons, List.not_mem_nil, or_false] at h
  rcases h with ((((((rfl | rfl | rfl) | h) | h) | h) | h) | h) | rfl
  · exact .inl rfl
  · exact .inr ⟨_, rfl⟩
  · exact .inr ⟨_, rfl⟩
  · exact .inr (traffic_of_mem_handles h)
  · exact .inr (traffic_of_mem_handles h)
  · exact .inr (traffic_of_mem_handles h)
  · exact .inr (traffic_of_mem_handles h)
  · exact .inr (traffic_of_mem_handles h)
  · exact .inr ⟨_, rfl⟩

theorem leads_new {root : MetricName} {rules : RuleList}
    (hs : S.Agrees (layout.schema (root.below ["eventbus"]))) :
    Leads (Books S held log) (new root rules) fun c r =>
      (c.base = root.below ["eventbus"] ∧ c.rules = rules) ∧
        Books S (held ++ c.handles) log r := by
  refine .bind (.name (n := root.below ["eventbus"]) rfl) fun n => .given ?_
  rintro rfl
  generalize root.below ["eventbus"] = base at hs
  refine .bind (.metric hs rfl rfl) fun handlers => ?_
  refine .bind (leads_message "bytes-read" hs rfl rfl) fun bytesRead => ?_
  refine .bind (leads_message "bytes-written" hs rfl rfl) fun bytesWritten => ?_
  refine .bind (leads_message Lane.pending.text hs rfl rfl) fun pending => ?_
  refine .bind (leads_message (Lane.pending.side true) hs rfl rfl) fun pendingLocal => ?_
  refine .bind (leads_message (Lane.pending.side false) hs rfl rfl) fun pendingRemote => ?_
  refine .bind (Traffic.leads_new .received hs rfl rfl rfl rfl rfl rfl) fun received => ?_
  refine .bind (Traffic.leads_new .delivered hs rfl rfl rfl rfl rfl rfl) fun delivered => ?_
  refine .bind (Traffic.leads_new .sent hs rfl rfl rfl rfl rfl rfl) fun sent => ?_
  refine .bind (Traffic.leads_new .published hs rfl rfl rfl rfl rfl rfl) fun published => ?_
  refine .bind (leads_message "reply-failures" hs rfl rfl) fun replyFailures => ?_
  exact .pure fun r books =>
    ⟨⟨rfl, rfl⟩, by simpa [handles, allPending, Traffic.handles] using books⟩

/-! ### What is counted -/

def timerPath (node : Node) : List Node := [.escape "handlers", node]

def amounts : Deed → List (List Node × Int)
  | .registered _ => [([.escape "handlers"], 1)]
  | .unregistered => [([.escape "handlers"], -1)]
  | .sent publish isLocal => sided (if publish then .published else .sent) isLocal 1
  | .received isLocal handlers =>
    sided .pending isLocal handlers.toNat ++ sided .received isLocal 1 ++
      if handlers = 0 then [] else sided .delivered isLocal handlers.toNat
  | .begun isLocal => sided .pending isLocal (-1)
  | .ended node? => node?.toList.map fun node => (timerPath node, 1)
  | .bytesRead n => [(wordPath "bytes-read", n.toNat)]
  | .bytesWritten n => [(wordPath "bytes-written", n.toNat)]
  | .replyFailure => [(wordPath "reply-failures", 1)]

def asks : Deed → List (List Node)
  | .registered (some node) => [timerPath node]
  | _ => []

/-- A handler has the timer of its node, if it has a node. -/
def Timed (base : MetricName) (held : List (MetricName × MetricId)) (h : EventBus × Handler) :
    Prop :=
  match nodeOf? h with
  | none => h.2.timer = none
  | some node => ∃ id, h.2.timer = some id ∧ (base.join ⟨timerPath node⟩, id) ∈ held

theorem Timed.mono {held' : List (MetricName × MetricId)} {h : EventBus × Handler}
    (sub : held ⊆ held') (ht : Timed base held h) : Timed base held' h := by
  unfold Timed at ht ⊢
  split at ht
  · exact ht
  · obtain ⟨id, timer, hm⟩ := ht
    exact ⟨id, timer, sub hm⟩

def Bears (base : MetricName) (held : List (MetricName × MetricId)) : Token → Prop
  | .inl h => Timed base held h
  | .inr _ => True

section Enters

variable {c : EventBus} {address : String} {node : Node}

theorem handlerRegistered_of_none (h : c.rules.node? address = none) :
    c.handlerRegistered address r = (⟨address, none⟩, r.record c.handlers (.add 1)) := by
  rw [handlerRegistered, h]

theorem handlerRegistered_of_some (h : c.rules.node? address = some node) {id? : Option MetricId}
    (ht : (r.record c.handlers (.add 1)).metricIfFree (.ok (c.base.join ⟨timerPath node⟩)) .timer =
      (id?, r')) :
    c.handlerRegistered address r = (⟨address, id?⟩, r') := by
  rw [handlerRegistered, h]
  have named : (compose c.base "handlers").map (·.child node) =
      .ok (c.base.join ⟨timerPath node⟩) :=
    congrArg Except.ok (c.base.child_join ⟨[.escape "handlers"]⟩ node)
  simp only [named, ht]

/-- Whoever registers a handler gets it with the timer of its node, which may be a new one. -/
theorem enters_registered (address : String) (known : c.handles ⊆ held)
    (books : Books (layout.schema c.base) held log r) :
    ∃ asked, asked.map (·.1) =
        (asks (.registered (c.rules.node? address))).map (fun path => c.base.join ⟨path⟩) ∧
      Timed c.base (held ++ asked) (c, (c.handlerRegistered address r).1) ∧
      Enters (layout.schema c.base) held log asked
        (entered c.base (amounts (.registered (c.rules.node? address))))
        (c.handlerRegistered address r).2 := by
  have own : Recordable (layout.schema c.base) (held ++ []) (c.base.below ["handlers"]) c.handlers
      (.add 1) := .below rfl (List.mem_append_left _ (known (by simp [handles]))) rfl
  have counted := (Enters.refl books).record own
  cases hn : c.rules.node? address with
  | none =>
    rw [handlerRegistered_of_none hn]
    refine ⟨[], rfl, ?_, counted⟩
    simp [Timed, nodeOf?, hn]
  | some node =>
    have timed : layout.schema c.base (c.base.join ⟨timerPath node⟩) = some .timer :=
      Layout.schema_join ..
    obtain ⟨id, r', ht, entered⟩ := counted.ask timed (by decide)
    rw [handlerRegistered_of_some hn ht]
    refine ⟨[(c.base.join ⟨timerPath node⟩, id)], rfl, ?_, entered⟩
    simp [Timed, nodeOf?, hn]

theorem enters_received (isLocal : Bool) (handlers : UInt64) (known : c.handles ⊆ held)
    (books : Books (layout.schema c.base) held log r) :
    Enters (layout.schema c.base) held log []
      (entered c.base (amounts (.received isLocal handlers)))
      (c.messageReceived isLocal handlers r) := by
  obtain ⟨pending, received, delivered, -, -⟩ := c.traffic_subset_handles
  have waiting := Traffic.enters .pending .counter isLocal (.refl books)
    (List.Subset.trans pending known) (by decide) (e := .add handlers.toInt64) rfl
    (ofInt_toNat handlers).symm
  have arrived := Traffic.enters .received .throughputMeter isLocal waiting
    (List.Subset.trans received known) (by decide) (e := .mark 1) (n := 1) rfl rfl
  have informed := Traffic.enters .delivered .throughputMeter isLocal arrived
    (List.Subset.trans delivered known) (by decide) (e := .mark handlers) rfl
    (ofInt_toNat handlers).symm
  rw [amounts, messageReceived]
  -- A message for no handler arrives too, but is delivered to none.
  split
  · exact (List.append_nil _).symm ▸ arrived
  · exact informed

/-- What ends is timed with the handler that has it, if this one is timed at all. -/
theorem enters_ended {h : EventBus × Handler} (m : Handling) (timed : Timed base held h)
    (books : Books (layout.schema base) held log r) :
    Enters (layout.schema base) held log [] (entered base (amounts (.ended (nodeOf? h))))
      (endHandleMessage h.2 m r) := by
  unfold Timed at timed
  rw [endHandleMessage]
  split at timed
  · next none_there =>
    rw [none_there, timed]
    exact .refl books
  · next node named =>
    obtain ⟨id, timer, hm⟩ := timed
    rw [named, timer]
    exact (Enters.refl books).record (e := .duration (r.now.since m.start))
      ⟨List.mem_append_left _ hm, .timer, Layout.schema_join .., rfl⟩

theorem enters {k : Deed} {taken given : List Token} (h : c.Acts r k taken given r')
    (known : c.handles ⊆ held) (ht : ∀ t ∈ taken, Bears c.base held t)
    (books : Books (layout.schema c.base) held log r) :
    ∃ asked, asked.map (·.1) = (asks k).map (fun path => c.base.join ⟨path⟩) ∧
      (∀ t ∈ given, Bears c.base (held ++ asked) t) ∧
      Enters (layout.schema c.base) held log asked (entered c.base (amounts k)) r' := by
  have start := Enters.refl books
  obtain ⟨pending, -, -, sent, published⟩ := c.traffic_subset_handles
  have own : c.handles ⊆ held ++ [] := List.Subset.trans known (List.subset_append_left ..)
  cases h with
  | registered address =>
    obtain ⟨asked, names, timed, entered⟩ := enters_registered address known books
    exact ⟨asked, names, List.forall_mem_singleton.mpr timed, entered⟩
  | unregistered h =>
    have counted : Recordable (layout.schema c.base) (held ++ []) (c.base.below ["handlers"])
        c.handlers (.add (-1)) := .below rfl (own (by simp [handles])) rfl
    exact ⟨[], rfl, List.forall_mem_nil _, start.record counted⟩
  | sent publish isLocal =>
    refine ⟨[], rfl, List.forall_mem_nil _, ?_⟩
    cases publish with
    | true =>
      exact Traffic.enters .published .throughputMeter isLocal start
        (List.Subset.trans published known) (by decide) (e := .mark 1) rfl rfl
    | false =>
      exact Traffic.enters .sent .throughputMeter isLocal start (List.Subset.trans sent known)
        (by decide) (e := .mark 1) rfl rfl
  | received isLocal handlers =>
    exact ⟨[], rfl, List.forall_mem_nil _, enters_received isLocal handlers known books⟩
  | begun h isLocal =>
    refine ⟨[], rfl, by simpa [Bears] using ht, ?_⟩
    exact Traffic.enters .pending .counter isLocal start (List.Subset.trans pending known)
      (by decide) (e := .add (-1)) rfl rfl
  | ended h m =>
    have timed : Timed c.base held h := ht _ List.mem_cons_self
    refine ⟨[], rfl, by simpa [Bears] using timed, enters_ended m timed books⟩
  | bytesRead n =>
    have counted : Recordable (layout.schema c.base) (held ++ [])
        (c.base.below ["messages", "bytes-read"]) c.bytesRead (.mark n) :=
      .below rfl (own (by simp [handles])) rfl
    have marked := start.record counted
    rw [Event.amount, ← ofInt_toNat] at marked
    exact ⟨[], rfl, List.forall_mem_nil _, marked⟩
  | bytesWritten n =>
    have counted : Recordable (layout.schema c.base) (held ++ [])
        (c.base.below ["messages", "bytes-written"]) c.bytesWritten (.mark n) :=
      .below rfl (own (by simp [handles])) rfl
    have marked := start.record counted
    rw [Event.amount, ← ofInt_toNat] at marked
    exact ⟨[], rfl, List.forall_mem_nil _, marked⟩
  | replyFailure =>
    have counted : Recordable (layout.schema c.base) (held ++ [])
        (c.base.below ["messages", "reply-failures"]) c.replyFailures (.mark 1) :=
      .below rfl (own (by simp [handles])) rfl
    exact ⟨[], rfl, List.forall_mem_nil _, start.record counted⟩

end Enters

end EventBus

/-- The recorders of the event bus below a base. -/
def buses [Pattern.Engine] (base : MetricName) : Desk EventBus EventBus.Deed EventBus.Token where
  base := base
  layout := EventBus.layout
  builds r c r' := ∃ root rules, (EventBus.new root rules).run r = (.ok c, r') ∧ c.base = base
  acts := EventBus.Acts

namespace EventBus

theorem books_of_builds [Pattern.Engine] {c : EventBus} (h : (buses base).builds r c r')
    (books : Books (buses base).watched held log r) :
    c.base = base ∧ Books (buses base).watched (held ++ c.handles) log r' := by
  obtain ⟨root, rules, hr, hb⟩ := h
  obtain rfl := ((within_new root rules).post r c (by rw [hr])).symm.trans hb
  exact ⟨hb, (leads_new (Schema.agrees_refl _) r c r' books hr).2⟩

def accounts [Pattern.Engine] (base : MetricName) : (buses base).Accounts where
  fits c := c.base = base
  handles := handles
  bears := Bears base
  asks := asks
  amounts := amounts
  mono {held held' t} sub h := by
    cases t with
    | inl h' => exact h.mono sub
    | inr m => trivial
  builds := books_of_builds
  acts {c r k taken given r' held log} h fit known ht books := by
    obtain rfl := fit
    exact enters h known ht books

/-! ### What was done to each side -/

def Deed.arrives (isLocal : Bool) : Deed → Bool
  | .received side _ => side = isLocal
  | _ => false

def Deed.isSided : Deed → Bool
  | .sent .. | .received .. | .begun _ => true
  | _ => false

def Deed.registers : Deed → Bool
  | .registered _ => true
  | _ => false

/-- The handlers that a message goes to. -/
def Deed.handlers (isLocal : Bool) : Deed → Nat
  | .received side handlers => if side = isLocal then handlers.toNat else 0
  | _ => 0

/-- The handlers that messages of one side went to. -/
def informed (isLocal : Bool) (ks : List Deed) : Nat := (ks.map (Deed.handlers isLocal)).sum

/-- The handlers that are not unregistered again. -/
def present (ks : List Deed) : Int := ks.countP Deed.registers - ks.count .unregistered

open Desk (share share_append share_cons share_nil share_singleton total total_cons)

section Shares

variable {k : Deed}

theorem share_sided_side (l m : Lane) (b isLocal : Bool) (n : Int) :
    share (sided l b n) (wordPath (m.side isLocal)) = if l = m ∧ b = isLocal then n else 0 := by
  have names : ∀ b c, wordPath l.text ≠ wordPath (m.side c) ∧
      (wordPath (l.side b) = wordPath (m.side c) ↔ l = m ∧ b = c) := by
    cases l <;> cases m <;> decide
  obtain ⟨whole, side⟩ := names b isLocal
  rw [sided, share_cons, share_singleton, if_neg whole, zero_add]
  exact if_congr side rfl rfl

theorem share_sided_whole (l m : Lane) (b : Bool) (n : Int) :
    share (sided l b n) (wordPath m.text) = if l = m then n else 0 := by
  have names : ∀ b, (wordPath l.text = wordPath m.text ↔ l = m) ∧
      wordPath (l.side b) ≠ wordPath m.text := by
    cases l <;> cases m <;> decide
  obtain ⟨whole, side⟩ := names b
  rw [sided, share_cons, share_singleton, if_neg side, add_zero]
  exact if_congr whole rfl rfl

theorem timerPath_ne (node : Node) (w : String) : timerPath node ≠ wordPath w := by
  have apart : Node.escape "handlers" ≠ .escape "messages" := by decide
  exact fun h => apart (List.cons.inj h).1

/-- What is not about one side is about nothing that has sides. -/
theorem share_of_not_sided (hk : k.isSided = false) (l : Lane) {w : String}
    (hw : w ∈ [l.text, l.side true, l.side false]) : share (amounts k) (wordPath w) = 0 := by
  have names : ∀ v ∈ [l.text, l.side true, l.side false], ∀ p ∈ [[.escape "handlers"],
      wordPath "bytes-read", wordPath "bytes-written", wordPath "reply-failures"],
      p ≠ wordPath v := by
    cases l <;> decide
  have apart := names w hw
  simp only [List.forall_mem_cons] at apart
  obtain ⟨handlers, read, written, failures, -⟩ := apart
  cases k with
  | sent | received | begun => cases hk
  | registered node? => rw [amounts, share_singleton, if_neg handlers]
  | unregistered => rw [amounts, share_singleton, if_neg handlers]
  | ended node? =>
    cases node? with
    | none => rfl
    | some node => exact (share_singleton ..).trans (if_neg (timerPath_ne node w))
  | bytesRead n => rw [amounts, share_singleton, if_neg read]
  | bytesWritten n => rw [amounts, share_singleton, if_neg written]
  | replyFailure => rw [amounts, share_singleton, if_neg failures]

theorem share_whole (l : Lane) (k : Deed) :
    share (amounts k) (wordPath l.text) =
      share (amounts k) (wordPath (l.side true)) + share (amounts k) (wordPath (l.side false)) := by
  have halves (m : Lane) (b : Bool) (n : Int) : share (sided m b n) (wordPath l.text) =
      share (sided m b n) (wordPath (l.side true)) +
        share (sided m b n) (wordPath (l.side false)) := by
    rw [share_sided_whole, share_sided_side, share_sided_side]
    cases b <;> simp
  cases hk : k.isSided with
  | false =>
    rw [share_of_not_sided hk l (by simp), share_of_not_sided hk l (by simp),
      share_of_not_sided hk l (by simp)]
    rfl
  | true =>
    cases k with
    | sent publish isLocal => exact halves _ isLocal 1
    | begun isLocal => exact halves _ isLocal (-1)
    | received isLocal handlers =>
      rw [amounts]
      split <;> simp only [share_append, share_nil, halves] <;> omega
    | _ => cases hk

end Shares

theorem total_whole (l : Lane) (ks : List Deed) :
    total amounts ks (wordPath l.text) =
      total amounts ks (wordPath (l.side true)) + total amounts ks (wordPath (l.side false)) := by
  induction ks with
  | nil => rfl
  | cons k ks ih =>
    rw [total_cons, total_cons, total_cons, ih, share_whole]
    omega

/-- What was done on one side. Pending is what was delivered and did not begin yet, which is less
than nothing if more begins than was delivered. -/
def tally (isLocal : Bool) (ks : List Deed) : Lane → Int
  | .pending => informed isLocal ks - ks.count (.begun isLocal)
  | .received => ks.countP (Deed.arrives isLocal)
  | .delivered => informed isLocal ks
  | .sent => ks.count (.sent false isLocal)
  | .published => ks.count (.sent true isLocal)

theorem total_side (l : Lane) (isLocal : Bool) (ks : List Deed) :
    total amounts ks (wordPath (l.side isLocal)) = tally isLocal ks l := by
  induction ks with
  | nil => cases l <;> rfl
  | cons k ks ih =>
    rw [total_cons, ih]
    cases hk : k.isSided with
    | false =>
      rw [share_of_not_sided hk l (by cases isLocal <;> simp), zero_add]
      cases k with
      | sent | received | begun => cases hk
      | _ => cases l <;> simp [tally, informed, Deed.arrives, Deed.handlers]
    | true =>
      cases k with
      | sent publish side =>
        rw [amounts, share_sided_side]
        cases publish <;> cases side <;> cases isLocal <;> cases l <;>
          simp [tally, informed, Deed.arrives, Deed.handlers, add_comm]
      | received side handlers =>
        have told : share (if handlers = 0 then [] else sided .delivered side handlers.toNat)
            (wordPath (l.side isLocal)) =
              if .delivered = l ∧ side = isLocal then (handlers.toNat : Int) else 0 := by
          split
          · next none_there => simp [none_there]
          · rw [share_sided_side]
        rw [amounts, share_append, share_append, share_sided_side, share_sided_side, told]
        cases side <;> cases isLocal <;> cases l <;>
          simp [tally, informed, Deed.arrives, Deed.handlers] <;> omega
      | begun side =>
        rw [amounts, share_sided_side]
        cases side <;> cases isLocal <;> cases l <;>
          simp [tally, informed, Deed.arrives, Deed.handlers] <;> omega
      | _ => cases hk

theorem share_of_sided {k : Deed} (hk : k.isSided) {path : List Node}
    (h : ∀ w, wordPath w ≠ path) : share (amounts k) path = 0 := by
  have aside (l : Lane) (b : Bool) (n : Int) : share (sided l b n) path = 0 := by
    rw [sided, share_cons, share_singleton, if_neg (h _), if_neg (h _), zero_add]
  cases k with
  | sent publish isLocal => exact aside ..
  | received isLocal handlers =>
    rw [amounts]
    split <;> simp only [share_append, share_nil, aside] <;> rfl
  | begun isLocal => exact aside ..
  | _ => cases hk

theorem wordPath_ne (w : String) : wordPath w ≠ [.escape "handlers"] := by
  simp [wordPath]

theorem total_handlers (ks : List Deed) : total amounts ks [.escape "handlers"] = present ks := by
  induction ks with
  | nil => rfl
  | cons k ks ih =>
    rw [total_cons, ih]
    cases k with
    | sent | received | begun =>
      rw [share_of_sided rfl wordPath_ne, zero_add]
      simp [present, Deed.registers]
    | ended node? =>
      cases node? <;> simp [present, Deed.registers, amounts, share_singleton, timerPath]
    | registered | unregistered =>
      simp only [amounts, share_singleton, if_true, present]
      simp [List.countP_cons, Deed.registers]
      omega
    | _ => simp [present, Deed.registers, amounts, share_singleton, wordPath_ne]

theorem total_timer (node : Node) (ks : List Deed) :
    total amounts ks (timerPath node) = ks.count (.ended (some node)) := by
  have apart (w : String) : wordPath w ≠ timerPath node := (timerPath_ne node w).symm
  induction ks with
  | nil => rfl
  | cons k ks ih =>
    rw [total_cons, ih]
    cases k with
    | sent | received | begun =>
      rw [share_of_sided rfl apart, zero_add]
      simp
    | ended node? =>
      cases node? with
      | none => simp [amounts]
      | some n => simp [amounts, share_singleton, timerPath, List.count_cons, add_comm]
    | registered | unregistered => simp [amounts, share_singleton, timerPath]
    | _ => simp [amounts, share_singleton, apart]

theorem moves_handlers [Pattern.Engine] (base : MetricName) :
    (buses base).Moves Sum.isLeft fun k => share (amounts k) [.escape "handlers"] := by
  intro c r k taken given r' h
  beta_reduce
  cases h with
  | sent | received | begun =>
    rw [share_of_sided rfl wordPath_ne]
    rfl
  | ended h m =>
    cases nodeOf? h <;> simp [amounts, share_singleton, timerPath] <;> rfl
  | registered | unregistered => rfl
  | _ => simp [amounts, share_singleton, wordPath_ne]

/-! ### What the metrics show -/

/-- The metrics of event buses tell what was done at them. All counts are those of 64 bits. -/
structure Shows (base : MetricName) (r : Registry) (ks : List Deed) : Prop where
  side : ∀ (l : Lane) isLocal, r.account? (base.below ["messages", l.side isLocal]) =
    some ⟨l.kind, .ofInt 64 (tally isLocal ks l)⟩
  whole : ∀ l : Lane, r.account? (base.below ["messages", l.text]) =
    some ⟨l.kind, .ofInt 64 (tally true ks l) + .ofInt 64 (tally false ks l)⟩
  handlers : r.account? (base.below ["handlers"]) = some ⟨.counter, .ofInt 64 (present ks)⟩
  present_nonneg : 0 ≤ present ks
  exact_handlers : present ks < 2 ^ 63 → r.Counts (base.below ["handlers"]) .counter (present ks)
  timed : ∀ node, .registered (some node) ∈ ks →
    r.account? ((base.below ["handlers"]).child node) =
      some ⟨.timer, .ofNat 64 (ks.count (.ended (some node)))⟩
  untimed : ∀ node, .registered (some node) ∉ ks →
    r.account? ((base.below ["handlers"]).child node) = none ∧ .ended (some node) ∉ ks

theorem timer_notMem_handles [Pattern.Engine] {c : EventBus} (fit : c.base = base) (node : Node) :
    base.join ⟨timerPath node⟩ ∉ c.handles.map (·.1) := by
  subst fit
  intro hm
  obtain ⟨e, he, named⟩ := List.mem_map.mp hm
  rcases name_of_mem_handles he with same | ⟨w, same⟩
  · have nodes : timerPath node = [.escape "handlers"] :=
      congrArg MetricName.nodes (MetricName.join_left_cancel (named.symm.trans same))
    simp [timerPath] at nodes
  · have nodes : timerPath node = wordPath w :=
      congrArg MetricName.nodes (MetricName.join_left_cancel (named.symm.trans same))
    exact timerPath_ne node w nodes

theorem registered_of_asks {k : Deed} {node : Node} (h : timerPath node ∈ asks k) :
    k = .registered (some node) := by
  unfold asks at h
  split at h
  · have nodes := List.mem_singleton.mp h
    simp only [timerPath, List.cons.injEq, and_true, true_and] at nodes
    rw [nodes]
  · cases h

theorem shows_of_reaches [Pattern.Engine] {c : EventBus} (fit : c.base = base)
    (books : Books (buses base).watched c.handles [] r)
    {s : Desk.State EventBus Deed Token} (reached : (buses base).Reaches c r s) :
    Shows base s.registry s.deeds := by
  obtain ⟨held, kept⟩ := Desk.Accounts.Kept.run (a := accounts base) fit books reached
  have message {w : String} {kind : Kind} (hk : layout ((wordPath w).map Node.text) = some kind)
      (hm : ∀ c : EventBus, c.base.below ["messages", w] ∈ c.handles.map (·.1)) :
      s.registry.account? (base.below ["messages", w]) =
        some ⟨kind, .ofInt 64 (total amounts s.deeds (wordPath w))⟩ := by
    refine kept.account_of_own (wordPath w) ((Layout.schema_join ..).trans hk) ?_
    rintro c rfl
    exact hm c
  have side (l : Lane) (isLocal : Bool) :
      s.registry.account? (base.below ["messages", l.side isLocal]) =
        some ⟨l.kind, .ofInt 64 (tally isLocal s.deeds l)⟩ := by
    rw [← total_side]
    refine message (by cases l <;> cases isLocal <;> rfl) fun c => ?_
    cases l <;> cases isLocal <;> simp [handles, Traffic.handles]
  have whole (l : Lane) : s.registry.account? (base.below ["messages", l.text]) =
      some ⟨l.kind, .ofInt 64 (tally true s.deeds l) + .ofInt 64 (tally false s.deeds l)⟩ := by
    rw [← BitVec.ofInt_add, ← total_side, ← total_side, ← total_whole]
    refine message (by cases l <;> rfl) fun c => ?_
    cases l <;> simp [handles, Traffic.handles]
  have handlers : s.registry.account? (base.below ["handlers"]) =
      some ⟨.counter, .ofInt 64 (present s.deeds)⟩ := by
    rw [← total_handlers]
    refine kept.account_of_own [.escape "handlers"] (Layout.schema_join ..) ?_
    rintro c rfl
    simp [accounts, EventBus.handles, buses, MetricName.below_eq_join]
  have tokens : _ = total amounts s.deeds _ := reached.tallies (moves_handlers base)
  rw [total_handlers] at tokens
  have named (node : Node) : (base.below ["handlers"]).child node = base.join ⟨timerPath node⟩ :=
    base.child_join ⟨[.escape "handlers"]⟩ node
  have timer (node : Node) : ((∃ k ∈ s.deeds, timerPath node ∈ asks k) →
        s.registry.account? (base.join ⟨timerPath node⟩) =
          some ⟨.timer, .ofNat 64 (s.deeds.count (.ended (some node)))⟩) ∧
      ((∀ k ∈ s.deeds, timerPath node ∉ asks k) →
        s.registry.account? (base.join ⟨timerPath node⟩) = none ∧
          ∀ k ∈ s.deeds, timerPath node ∉ (amounts k).map (·.1)) := by
    rw [← BitVec.ofInt_natCast, ← total_timer]
    exact kept.account_of_asked (timerPath node) ((Layout.schema_join ..).trans rfl)
      fun c fit => timer_notMem_handles fit node
  exact {
    side, whole, handlers
    present_nonneg := by omega
    exact_handlers := fun few => Registry.counts_of_counter handlers ⟨by omega, few⟩
    timed := fun node hm => by
      rw [named]
      exact (timer node).1 ⟨_, hm, List.mem_singleton_self _⟩
    untimed := fun node hm => by
      rw [named]
      obtain ⟨free, unposted⟩ := (timer node).2 fun k hk ha => hm (registered_of_asks ha ▸ hk)
      exact ⟨free, fun hk => unposted _ hk (List.mem_singleton_self _)⟩ }

/-- From a fresh base on, whatever is done at its event buses, all that is counted agrees with the
sides and with what was done. -/
theorem messages_conserved [Pattern.Engine] (root : MetricName) (rules : RuleList) (r : Registry)
    (free : r.namesFrom (root.below ["eventbus"]) = []) :
    ∃ c r', (new root rules).run r = (.ok c, r') ∧ c.rules = rules ∧
      ∀ s, (buses (root.below ["eventbus"])).Reaches c r' s →
        Shows (root.below ["eventbus"]) s.registry s.deeds := by
  obtain ⟨c, r', hr, ⟨fit, named⟩, books⟩ := Setup.exists_run_of_unbound (within_new root rules)
    (leads_new (Schema.agrees_refl _)) (fun _ _ hs => hs)
    (fun _ => Layout.unbound_of_namesFrom _ free)
  exact ⟨c, r', hr, named, fun s reached => shows_of_reaches fit books reached⟩

/-- One of two handlers that a message goes to begins and ends with it, at an event bus that would
not time it. -/
theorem messages_conserved_app :
    let root := MetricName.ofNode (.escape "app")
    let base := root.below ["eventbus"]
    let r := Registry.withClock (.startingAt 0)
    r.namesFrom base = [] ∧ ∃ c r', (new root [.exact "a"]).run r = (.ok c, r') ∧
      ∃ s, (buses base).Reaches c r' s ∧
        s.registry.account? (base.below ["messages", "pending"]) = some ⟨.counter, 1⟩ ∧
        s.registry.account? (base.below ["messages", "delivered-remote"]) =
          some ⟨.throughputMeter, 2⟩ ∧
        s.registry.account? ((base.below ["handlers"]).child (.escape "a")) = some ⟨.timer, 1⟩ ∧
        s.registry.Counts (base.below ["handlers"]) .counter 1 := by
  intro root base r
  obtain ⟨c, r', hr, rules, law⟩ := messages_conserved root [.exact "a"] r rfl
  obtain ⟨second, r'', hr', hb⟩ := Setup.exists_run_again (within_new root [.exact "a"])
    (within_new root []) (Registry.respects_withClock _ _) hr
  refine ⟨rfl, c, r', hr, ?_⟩
  have node : nodeOf? (c, (c.handlerRegistered "a" r'').1) = some (.escape "a") := by
    have address : (c.handlerRegistered "a" r'').1.address = "a" := by
      unfold handlerRegistered
      split <;> rfl
    rw [nodeOf?, address, rules]
    decide +kernel
  have registered : c.rules.node? "a" = some (.escape "a") := by
    rw [rules]
    decide +kernel
  obtain ⟨s, reached, done⟩ : ∃ s, (buses base).Reaches c r' s ∧
      s.deeds = [.registered (c.rules.node? "a"), .received false 2, .begun false,
        .ended (nodeOf? (c, (c.handlerRegistered "a" r'').1))] :=
    ⟨_, ((((Relation.ReflTransGen.refl.tail (.build ⟨root, [], hr', hb⟩)).tail
      (.act (List.mem_cons_of_mem _ List.mem_cons_self) (.registered "a") (.refl _))).tail
      (.act List.mem_cons_self (.received false 2) (.refl _))).tail
      (.act List.mem_cons_self (.begun _ false) (.refl _))).tail
      (.act List.mem_cons_self (.ended _ _) (.refl _)), rfl⟩
  rw [node, registered] at done
  have shows := law s reached
  rw [done] at shows
  exact ⟨s, reached, shows.whole .pending, shows.side .delivered false, shows.timed _ (by simp),
    shows.exact_handlers (by decide)⟩

end EventBus

end Telemetry.Component
