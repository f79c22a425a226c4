import Mathlib.Data.List.Find
import Mathlib.Data.List.Nodup
import VmLifecycle.Proofs.Network.Verdict

/-!
# What a selection does not depend on

Hypervisors and hosts list their interfaces in no fixed order, and they list more of them
than the table knows. A trial asks two things of the lists: which adapter is the first in
its subnet, and how many interfaces of the host are. Neither changes when interfaces of
the host are reordered, when adapters with different addresses are, or when interfaces of
other subnets come and go.
-/

namespace VmLifecycle.Selection

open Program

/-- The adapters of the hypervisor and the interfaces of the host, as they are listed. -/
structure Listing where
  candidates : List Interface
  host : List Interface

/-- Two listings with the same interfaces in these subnets: one comes from the other by
reordering interfaces of the host, by reordering adapters of which no two have one
address, and by adding or leaving out interfaces of other subnets. -/
inductive Listing.Alike (subnets : List Ipv4) : Listing → Listing → Prop
  | hostReordered {candidates host host' : List Interface} (h : host.Perm host') :
      Alike subnets ⟨candidates, host⟩ ⟨candidates, host'⟩
  | candidatesReordered {before moved moved' after host : List Interface}
      (hdistinct : (moved.map Interface.ip).Nodup) (h : moved.Perm moved') :
      Alike subnets ⟨before ++ moved ++ after, host⟩ ⟨before ++ moved' ++ after, host⟩
  | hostAdded {candidates before after : List Interface} {interface : Interface}
      (h : interface.ip ∉ subnets) :
      Alike subnets ⟨candidates, before ++ after⟩ ⟨candidates, before ++ interface :: after⟩
  | candidateAdded {before after host : List Interface} {interface : Interface}
      (h : interface.ip ∉ subnets) :
      Alike subnets ⟨before ++ after, host⟩ ⟨before ++ interface :: after, host⟩
  | refl (x : Listing) : Alike subnets x x
  | symm {x y : Listing} (h : Alike subnets x y) : Alike subnets y x
  | trans {x y z : Listing} (h : Alike subnets x y) (h' : Alike subnets y z) : Alike subnets x z

/-- Of adapters with different addresses the same one is found in any order. -/
theorem find?_of_perm {moved moved' : List Interface} (subnet : Ipv4)
    (hdistinct : (moved.map Interface.ip).Nodup) (h : moved.Perm moved') :
    moved.find? (·.ip = subnet) = moved'.find? (·.ip = subnet) := by
  apply List.find?_eq_find?_of_perm h
  rintro x ⟨hx, hxip⟩ y ⟨hy, hyip⟩
  have hip : x.ip = y.ip := (of_decide_eq_true hxip).trans (of_decide_eq_true hyip).symm
  exact List.inj_on_of_nodup_map hdistinct hx hy hip

/-- What a trial asks of two listings that are alike has one answer. -/
theorem Listing.Alike.agree {subnets : List Ipv4} {x y : Listing} (h : Alike subnets x y)
    {subnet : Ipv4} (hsubnet : subnet ∈ subnets) :
    x.candidates.find? (·.ip = subnet) = y.candidates.find? (·.ip = subnet) ∧
      countAt x.host subnet = countAt y.host subnet := by
  have helsewhere {interface : Interface} (h : interface.ip ∉ subnets) :
      ¬ interface.ip = subnet := by
    rintro rfl
    exact h hsubnet
  induction h with
  | hostReordered h => exact ⟨rfl, h.countP_eq _⟩
  | candidatesReordered hdistinct h =>
      simp only [List.find?_append, find?_of_perm subnet hdistinct h, and_self]
  | hostAdded h => simp [countAt, helsewhere h]
  | candidateAdded h => simp [helsewhere h]
  | refl x => exact ⟨rfl, rfl⟩
  | symm _ ih => exact ⟨ih.1.symm, ih.2.symm⟩
  | trans _ _ ih ih' => exact ⟨ih.1.trans ih'.1, ih.2.trans ih'.2⟩

variable {candidates candidates' host host' : List Interface} {subnet : Ipv4}

theorem inSubnet?_congr
    (hfind : candidates.find? (·.ip = subnet) = candidates'.find? (·.ip = subnet))
    (hcount : countAt host subnet = countAt host' subnet) :
    inSubnet? subnet candidates host = inSubnet? subnet candidates' host' := by
  simp only [inSubnet?, fresh?, hfind, hcount]

/-- A walk over these subnets is one program on listings that are alike. -/
theorem Listing.Alike.firstFit?_eq {subnets : List Ipv4} {x y : Listing} (h : Alike subnets x y)
    {tried : List Ipv4} (htried : ∀ s ∈ tried, s ∈ subnets) :
    firstFit? x.candidates x.host tried = firstFit? y.candidates y.host tried := by
  induction tried with
  | nil => rfl
  | cons subnet tried ih =>
      obtain ⟨hsubnet, hrest⟩ := List.forall_mem_cons.1 htried
      obtain ⟨hfind, hcount⟩ := h.agree hsubnet
      simp only [firstFit?, inSubnet?_congr hfind hcount, ih hrest]

/-- What the host answers when it is asked for its interfaces, if it answers at all. -/
def Listing.answer (x : Listing) (listed : Except Fault Unit) : Except Fault (List Interface) :=
  listed.map fun _ => x.host

/-- With these answers to the listing and to each probe, a selection among the adapters has
one run: these calls after the listing, and this result. -/
def Listing.ComesTo (x : Listing) (table : AddressTable) (requested : Option Ipv4)
    (listed : Except Fault Unit) (probe : Ipv4 → Except Fault Bool) (calls : List Exchange)
    (result : Except Fault Selection) : Prop :=
  ∀ trace r, (Runs (choose table requested x.candidates).run trace r ∧
      ∀ e ∈ trace, AnsweredBy (x.answer listed) probe e) ↔
    trace = ⟨.hostInterfaces, x.answer listed⟩ :: calls ∧ r = some result

section

variable {table : AddressTable} {requested : Option Ipv4} {x y : Listing}

/-- A selection whose listing is answered goes on as the walk over its subnets. -/
theorem runs_choose_cons {candidates : List Interface} {reply : Except Fault (List Interface)}
    {rest : List Exchange} {r : Option (Except Fault Selection)} :
    Runs (choose table requested candidates).run (⟨.hostInterfaces, reply⟩ :: rest) r ↔
      match reply with
      | .error fault => rest = [] ∧ r = some (.error fault)
      | .ok host => ∃ found,
        Runs (firstFit? candidates host (trials table requested)).run rest (some found) ∧
          r = some (found.bind (settle (refusal requested))) := by
  rw [runs_choose]
  constructor
  · rintro ⟨reply', rest', heq, hrest⟩
    cases heq
    exact hrest
  · exact fun hrest => ⟨reply, rest, rfl, hrest⟩

/-- Listings that are alike come to the same, because the walk over the subnets is one
program on both. -/
theorem Listing.Alike.comesTo (h : Alike (trials table requested) x y)
    (listed : Except Fault Unit) (probe : Ipv4 → Except Fault Bool) :
    ∃ calls result, x.ComesTo table requested listed probe calls result ∧
      y.ComesTo table requested listed probe calls result := by
  cases listed with
  | error fault =>
      exact ⟨[], .error fault, fun _ _ => runs_choose_unlisted, fun _ _ => runs_choose_unlisted⟩
  | ok =>
      let scene : Scene := ⟨x.candidates, x.host, probe⟩
      exact ⟨_, _, fun _ _ => runs_choose_answered scene rfl,
        fun _ _ => runs_choose_answered scene (h.firstFit?_eq fun _ hs => hs).symm⟩

end

/-- The selection does not see in which order the host lists its interfaces, nor in which
order the hypervisor lists adapters with different addresses, nor interfaces of either
list that are in no subnet it tries. On two listings that differ in nothing else it has
the same runs once the host has answered: the same probes, with whatever answers, in the
same order, and the same result. Against one prober it has one run on each of the two, with
the same calls and the same result. -/
theorem selection_depends_on_subnets (table : AddressTable) (requested : Option Ipv4)
    {x y : Listing} (h : Listing.Alike (trials table requested) x y)
    (listed : Except Fault Unit) :
    (∀ rest r,
      Runs (choose table requested x.candidates).run
          (⟨.hostInterfaces, x.answer listed⟩ :: rest) r ↔
        Runs (choose table requested y.candidates).run
          (⟨.hostInterfaces, y.answer listed⟩ :: rest) r) ∧
      ∀ probe, ∃ calls result, x.ComesTo table requested listed probe calls result ∧
        y.ComesTo table requested listed probe calls result := by
  refine ⟨fun rest r => ?_, h.comesTo listed⟩
  rw [runs_choose_cons, runs_choose_cons]
  cases listed with
  | error fault => rfl
  | ok =>
      have hwalk := h.firstFit?_eq fun _ hs => hs
      simp only [Listing.answer, Except.map, hwalk]

/-- The adapters in the other order, the host's interfaces too, and one more adapter in no
subnet of the table: the second adapter is taken over all the same, after both were probed. -/
theorem selection_of_reordered_adapters :
    let first : Interface := .present "vboxnet0" ⟨192, 168, 11, 1⟩
    let second : Interface := .present "vboxnet1" ⟨192, 168, 22, 1⟩
    let foreign : Interface := .present "vboxnet2" ⟨10, 0, 0, 1⟩
    let probes : List Exchange :=
      [⟨.probe ⟨192, 168, 11, 11⟩, .ok true⟩, ⟨.probe ⟨192, 168, 22, 11⟩, .ok false⟩]
    Listing.Alike (trials .builtIn none) ⟨[first, second], [first, second]⟩
        ⟨[foreign, second, first], [second, first]⟩ ∧
      Runs (choose .builtIn none [foreign, second, first]).run
        (⟨.hostInterfaces, .ok [second, first]⟩ :: probes) (some (.ok ⟨second, true⟩)) := by
  intro first second foreign probes
  have halike : Listing.Alike (trials .builtIn none) ⟨[first, second], [first, second]⟩
      ⟨[foreign, second, first], [second, first]⟩ := by
    have hforeign : foreign.ip ∉ trials .builtIn none := by decide
    have hdistinct : ([first, second].map Interface.ip).Nodup := by decide
    have hreordered : Listing.Alike (trials .builtIn none) ⟨[first, second], [second, first]⟩
        ⟨[second, first], [second, first]⟩ :=
      @Listing.Alike.candidatesReordered _ [] _ _ [] _ hdistinct (.swap second first [])
    have hadded : Listing.Alike (trials .builtIn none) ⟨[second, first], [second, first]⟩
        ⟨[foreign, second, first], [second, first]⟩ :=
      @Listing.Alike.candidateAdded _ [] _ _ _ hforeign
    exact .trans (.hostReordered (.swap second first [])) (.trans hreordered hadded)
  have run : Runs (choose .builtIn none [first, second]).run
      (⟨.hostInterfaces, .ok [first, second]⟩ :: probes) (some (.ok ⟨second, true⟩)) :=
    .ask _ (.note (.ask _ (.note (.ask _ (.note (.done _))))))
  obtain ⟨hruns, -⟩ := selection_depends_on_subnets .builtIn none halike (.ok ())
  exact ⟨halike, (hruns probes _).1 run⟩

end VmLifecycle.Selection
