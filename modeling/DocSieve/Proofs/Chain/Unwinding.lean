import DocSieve.Proofs.Chain.Settled
import DocSieve.Proofs.Chain.Sound

/-!
# A chain nobody receives from unwinds

Once nobody receives from the last channel, the last stage takes nothing and puts
nothing out. Its workers leave at their next look, and the last of them closes
the channel that it took from. Then nobody receives from the stage before, and so
on up to the first channel.

So when such a chain is settled, every worker and every stage has ended, whatever
was waiting between the stages, and nothing that is sent to it is accepted any
more. It takes no cancel, and it does not matter whether the first channel was
closed.

Key theorems: `Scene.Next.idle_of_stopped`, `Chain.Settled.no_receiver`,
`Chain.dropped_chain_unwinds`.
-/

namespace DocSieve

open History

variable {σ α : Type}

/-- A stage that is stopped takes nothing and puts nothing out. -/
theorem Scene.Next.idle_of_stopped {x x' : Scene σ α} (n : x.Next x') (stop : x.stopped = true) :
    Log.taken x'.log = Log.taken x.log ∧ Log.puts x'.log = Log.puts x.log := by
  cases n with
  | take _ going =>
    rw [stop] at going
    cases going
  | put _ going =>
    rw [stop] at going
    cases going
  | make | fail | leave =>
    rw [Log.taken_concat, Log.puts_concat]
    exact ⟨List.append_nil _, List.append_nil _⟩
  | _ => exact ⟨rfl, rfl⟩

namespace Chain

variable {c next last first : Chain σ α} {h t : History α} {slots : Nat}
  {stages : List (Stage σ α)} {shared : σ} {steps more : List (Step α)}

theorem Advance.no_receiver {o : Occurrence α} (step : c.Advance o next) {i : Nat}
    {channel' : Channel α} (after : next.channels[i]? = some channel') :
    ∃ channel, c.channels[i]? = some channel ∧
      (channel.hasReceiver = false → channel'.hasReceiver = false) := by
  have put {old new : Channel α} {j : Nat} (place : c.channels[j]? = some old)
      (after : (c.channels.set j new)[i]? = some channel')
      (keep : old.hasReceiver = false → new.hasReceiver = false) :
      ∃ channel, c.channels[i]? = some channel ∧
        (channel.hasReceiver = false → channel'.hasReceiver = false) := by
    rcases getElem?_set_some after with ⟨rfl, rfl⟩ | ⟨-, same⟩
    · exact ⟨old, place, keep⟩
    · exact ⟨channel', same, id⟩
  cases step with
  | sent item place => exact put place after id
  | received place => exact put place after id
  | closed place => exact put place after id
  | dropped place => exact put place after Channel.no_receiver_dropReceiver
  | cancelled => exact ⟨channel', after, id⟩
  | unchanged => exact ⟨channel', after, id⟩
  | @worked j w s deed spot does =>
    obtain ⟨hin, -, hout, -, -⟩ := spot?_eq_some.mp spot
    have houtlet : s.outlet.hasReceiver = false →
        (s.perform w deed).outlet.hasReceiver = false := by
      intro dropped
      rcases Spot.outlet_perform does with ⟨value, -, -, -, -, e⟩ | ⟨-, e | e⟩ <;>
      · rw [e]
        exact dropped
    have hinlet : s.inlet.hasReceiver = false → (s.perform w deed).inlet.hasReceiver = false := by
      intro dropped
      rcases Spot.inlet_perform does with ⟨item, rest, -, -, e⟩ | ⟨-, e | e⟩
      · rw [e]
        exact dropped
      · rw [e]
        exact Channel.no_receiver_dropReceiver dropped
      · rw [e]
        exact dropped
    rcases getElem?_set_some after with ⟨rfl, rfl⟩ | ⟨-, same⟩
    · exact ⟨s.outlet, hout, houtlet⟩
    · exact put hin same hinlet
  | @ended j s spot can =>
    obtain ⟨hin, -, hout, -, -⟩ := spot?_eq_some.mp spot
    rcases getElem?_set_some after with ⟨rfl, rfl⟩ | ⟨-, same⟩
    · exact ⟨s.outlet, hout, id⟩
    · exact put hin same id

theorem no_receiver_of_replay {i : Nat}
    (dropped : ∀ channel, c.channels[i]? = some channel → channel.hasReceiver = false)
    (later : replay more c = some (last, t)) {channel : Channel α}
    (place : last.channels[i]? = some channel) : channel.hasReceiver = false := by
  refine replay_invariant (h := [])
    (P := fun _ c => ∀ channel, c.channels[i]? = some channel → channel.hasReceiver = false) ?_
    dropped later channel place
  intro _ c _ next _ hc hstep channel' after
  obtain ⟨channel, before, keep⟩ := (advance_of_advance? hstep).no_receiver after
  exact keep (hc channel before)

/-- **Where nobody receives, nobody works.** In a settled chain whose last channel
has no receiver, no channel has one. -/
theorem Settled.no_receiver (settled : c.Settled) (hc : c.Sound h)
    (dropped : ∀ channel, c.channels[c.crews.length]? = some channel →
      channel.hasReceiver = false) {i : Nat} {channel : Channel α}
    (place : c.channels[i]? = some channel) : channel.hasReceiver = false := by
  have formed : c.channels.length = c.crews.length + 1 := hc.formed
  obtain ⟨hi, -⟩ := List.getElem?_eq_some_iff.mp place
  -- from the last channel back to the first
  induction hback : c.crews.length - i generalizing i channel with
  | zero =>
    obtain rfl : i = c.crews.length := by omega
    exact dropped channel place
  | succ back ih =>
    obtain ⟨s, hs⟩ := hc.formed.spot_of_lt (show i < c.crews.length by omega)
    obtain ⟨hin, -, hout, -, -⟩ := spot?_eq_some.mp hs
    obtain rfl := Option.some.inj (hin.symm.trans place)
    have hoff : s.outlet.hasReceiver = false := ih hout (by omega) (by omega)
    have gone := (settled.over hs (by simp [Spot.stopped, hoff])).1
    have hreceiver : s.inlet.hasReceiver = !s.crew.allGone := (hc.stage hs).receiver
    rw [hreceiver, gone]
    rfl

theorem act_send_of_no_receiver {inlet : Channel α} (place : c.channels[0]? = some inlet)
    (sender : inlet.hasSender = true) (dropped : inlet.hasReceiver = false) (item : α) :
    c.act (.send item) = (c, .closed) := by
  have hsend : inlet.send item = (inlet, .closed) := by simp [Channel.send, sender, dropped]
  simp only [act, onChannel, place, hsend]
  rw [show { c with channels := c.channels.set 0 inlet } = c from c.setChannel_self place]

section Run

variable (begun : start slots stages shared = .ok first) (run : replay steps first = some (c, h))
  (dropped : ∀ channel, c.channels[stages.length]? = some channel → channel.hasReceiver = false)
  (later : replay more c = some (last, t))

include begun run dropped later

theorem log_of_dropped {i : Nat} (hi : i + 1 = stages.length) :
    Log.taken (log i t) = [] ∧ Log.puts (log i t) = [] := by
  have here : stages[i]? = some stages[i] := List.getElem?_eq_getElem (by omega)
  obtain ⟨s', hs', -⟩ := exists_spot_of_replay begun (replay_append run later) here
  obtain ⟨-, htaken, hputs⟩ := scene_invariant
    (P := fun x => x.stopped = true ∧ Log.taken x.log = Log.taken (log i h) ∧
      Log.puts x.log = Log.puts (log i h))
    (fun x x' _ ⟨stop, htaken, hputs⟩ n => ⟨n.stopped stop,
      (n.idle_of_stopped stop).1.trans htaken, (n.idle_of_stopped stop).2.trans hputs⟩)
    (sound_of_replay begun run)
    (fun s hs => by
      have hout := (spot?_eq_some.mp hs).2.2.1
      rw [hi] at hout
      have hoff := dropped s.outlet hout
      exact ⟨by simp [Scene.stopped, scene, Spot.scene, hoff], rfl, rfl⟩) later hs'
  simp only [scene, Spot.scene, log_append, Log.taken_append, Log.puts_append] at htaken hputs
  exact ⟨List.append_right_eq_self.mp htaken, List.append_right_eq_self.mp hputs⟩

theorem no_receiver_of_dropped (settled : last.Settled) {i : Nat} {channel : Channel α}
    (place : last.channels[i]? = some channel) : channel.hasReceiver = false := by
  have both := replay_append run later
  refine settled.no_receiver (sound_of_replay begun both) (fun channel hplace => ?_) place
  rw [length_of_replay begun both] at hplace
  exact no_receiver_of_replay dropped later hplace

end Run

/-- **A chain nobody receives from unwinds.** Whatever is asked after the last
receiver was dropped and in whatever order the moves are made, the last stage
takes no item and puts no value out. Once no move can be made, every worker and
every stage has ended, no stage has abandoned more items than it has workers, and
from then on whatever is sent is refused as closed. -/
theorem dropped_chain_unwinds {outlet : Channel α} (begun : start slots stages shared = .ok first)
    (run : replay steps first = some (c, h)) (place : c.channels[c.exit]? = some outlet)
    (dropped : outlet.hasReceiver = false) (later : replay more c = some (last, t)) :
    (∀ i, i + 1 = stages.length → Log.taken (log i t) = [] ∧ Log.puts (log i t) = []) ∧
    (last.Settled →
      (∀ i stage, stages[i]? = some stage → ∃ s, last.spot? i = some s ∧
        s.crew.allGone = true ∧ s.crew.summary.isSome = true ∧
        (last.scene (h ++ t) i s).account.abandoned.length ≤ stage.workers) ∧
      ∀ rest final t', replay rest last = some (final, t') →
        ∃ inlet, final.channels[0]? = some inlet ∧ inlet.hasReceiver = false ∧
          (inlet.hasSender = true → ∀ item, final.act (.send item) = (final, .closed))) := by
  have both := replay_append run later
  have hexit : ∀ channel, c.channels[stages.length]? = some channel →
      channel.hasReceiver = false := by
    intro channel hplace
    rw [(sound_of_replay begun run).formed.exit_eq, length_of_replay begun run, hplace] at place
    obtain rfl := Option.some.inj place
    exact dropped
  refine ⟨fun i hi => log_of_dropped begun run hexit later hi, fun settled => ?_⟩
  have hoff {i : Nat} {channel : Channel α} (hplace : last.channels[i]? = some channel) :
      channel.hasReceiver = false := no_receiver_of_dropped begun run hexit later settled hplace
  constructor
  · intro i stage here
    obtain ⟨s, hs, rfl⟩ := exists_spot_of_replay begun both here
    have hscene := (sound_of_replay begun both).stage hs
    obtain ⟨gone, ended⟩ := settled.over hs
      (by simp [Spot.stopped, hoff (spot?_eq_some.mp hs).2.2.1])
    have hle := hscene.balanced.abandoned_length_le
    rw [hscene.staffed] at hle
    exact ⟨s, hs, gone, ended, hle⟩
  · intro rest final t' hrest
    have formed : final.channels.length = final.crews.length + 1 :=
      (sound_of_replay begun (replay_append both hrest)).formed
    have hplace : final.channels[0]? = some final.channels[0] :=
      List.getElem?_eq_getElem (by omega)
    have hgone := no_receiver_of_replay (fun _ => hoff) hrest hplace
    exact ⟨_, hplace, hgone, fun sender => act_send_of_no_receiver hplace sender hgone⟩

/-- The worker of the second stage leaves with the quarter of 8 and the stage ends,
then that of the first one with the half of 16. -/
def unwindingSteps : List (Step Nat) :=
  [.move (.poll 1 0), .move (.finish 1), .move (.poll 0 0), .move (.finish 0)]

theorem dropped_chain_unwinds_halving :
    ∃ first c last h t, start 2 [halving "half" 1 1, halving "quarter" 1 1] () = .ok first ∧
      replay (stallingSteps ++ [.ask .drop]) first = some (c, h) ∧
      replay unwindingSteps c = some (last, t) ∧ last.Settled ∧
      last.cancelled = false ∧ last.summaries.map (·.name) = ["half", "quarter"] ∧
      last.act (.send 24) = (last, .closed) := by
  obtain ⟨-, hsettled⟩ := dropped_chain_unwinds
    (rfl : start 2 [halving "half" 1 1, halving "quarter" 1 1] () = .ok _)
    (rfl : replay (stallingSteps ++ [.ask .drop]) _ = some (_, _)) rfl rfl
    (rfl : replay unwindingSteps _ = some (_, _))
  obtain ⟨-, hsend⟩ := hsettled (settled_iff.mpr rfl)
  obtain ⟨inlet, hplace, -, hrefused⟩ := hsend [] _ [] rfl
  obtain rfl := Option.some.inj hplace
  exact ⟨_, _, _, _, _, rfl, rfl, rfl, settled_iff.mpr rfl, rfl, rfl, hrefused rfl 24⟩

end Chain

end DocSieve
