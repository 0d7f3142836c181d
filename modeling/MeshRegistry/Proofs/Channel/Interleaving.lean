import Mathlib.Logic.Function.Iterate
import MeshRegistry.Proofs.Channel.Calls

/-!
# Connections side by side

Every connection is served by a task of its own, and the tasks take turns in any order.  In one turn a
line is read, a request is carried out or a reply is sent, so other connections may have turns between
any two of these, and every change of the store is one turn.

What is said on a connection depends on its own lines and on nothing else.  What the registry holds
depends on the order of the accepted requests about each key, and on nothing else.
-/

namespace MeshRegistry

namespace Request

/-- The accepted requests about a key. -/
def settling (k : String) (qs : List Request) : List Request :=
  qs.filter fun q => q.Accepted ∧ q.key.text = k

theorem lastAccepted_eq (k : String) (qs : List Request) :
    lastAccepted k qs = (settling k qs).getLast? := rfl

/-- The order of requests about different keys does not count. -/
theorem settling_pair {q₁ q₂ : Request} (h : q₁.key ≠ q₂.key) (k : String) :
    settling k [q₁, q₂] = settling k [q₂, q₁] := by
  by_cases h₁ : q₁.key.text = k
  · have h₂ : q₂.key.text ≠ k := by
      intro h₂
      exact h (congrArg ServiceKey.mk (h₁.trans h₂.symm))
    by_cases ha : q₁.Accepted <;> simp [settling, h₁, h₂, ha]
  · by_cases ha : q₂.Accepted ∧ q₂.key.text = k <;> simp [settling, h₁, ha]

end Request

namespace Registry

/-- Only the order of the accepted requests about each key counts. -/
theorem foldl_after_congr {qs₁ qs₂ : List Request}
    (h : ∀ k, Request.settling k qs₁ = Request.settling k qs₂) (r : Registry) :
    qs₁.foldl after r = qs₂.foldl after r := by
  apply ext_get?
  intro k
  rw [get?_foldl_after_from, get?_foldl_after_from, Request.lastAccepted_eq, h k,
    Request.lastAccepted_eq]

theorem after_comm {q₁ q₂ : Request} (h : q₁.key ≠ q₂.key) (r : Registry) :
    (r.after q₁).after q₂ = (r.after q₂).after q₁ :=
  foldl_after_congr (Request.settling_pair h) r

end Registry

namespace Channel

open Text (Bytes)

/-! ## What is said on a connection -/

/-- The reply to a text, which no registry has a part in. -/
def answerTo (text : List Char) : Exchange :=
  match Request.decode text with
  | .ok q => ⟨some q, q.reply⟩
  | .error p => ⟨none, malformedReply p⟩

/-- What is said to some lines, up to the one that ends the connection. -/
def saidTo (maxLine : Nat) : List Bytes → List Exchange
  | [] => []
  | line :: rest =>
    if maxLine < line.length then [⟨none, tooLongReply maxLine⟩]
    else
      match Text.Utf8.decode (dropReturn line) with
      | none => []
      | some text =>
        if Text.allBlank text then saidTo maxLine rest else answerTo text :: saidTo maxLine rest

/-- The requests that were carried out in some exchanges. -/
def requestsIn (exchanges : List Exchange) : List Request :=
  exchanges.filterMap (·.request)

theorem requestsIn_append (es fs : List Exchange) :
    requestsIn (es ++ fs) = requestsIn es ++ requestsIn fs :=
  List.filterMap_append

theorem requestsIn_singleton (e : Exchange) : requestsIn [e] = e.request.toList := by
  rw [requestsIn, List.filterMap_cons]
  cases e.request <;> rfl

theorem exchange_eq (r : Registry) (text : List Char) :
    exchange r text =
      (answerTo text, (requestsIn [answerTo text]).foldl Registry.after r) := by
  rw [exchange, answerTo]
  cases Request.decode text with
  | error p => rfl
  | ok q =>
      simp only [r.answer_eq q]
      rfl

theorem foldl_hear_eq {c : Connection} (hc : c.isOpen = true) (hp : c.pending = [])
    (maxLine : Nat) (lines : List Bytes) :
    (lines.foldl (Connection.hear maxLine) c).exchanges = c.exchanges ++ saidTo maxLine lines ∧
      (lines.foldl (Connection.hear maxLine) c).registry =
        (requestsIn (saidTo maxLine lines)).foldl Registry.after c.registry := by
  induction lines generalizing c with
  | nil => exact ⟨(List.append_nil _).symm, rfl⟩
  | cons line rest ih =>
      rw [List.foldl_cons, saidTo]
      by_cases hlong : maxLine < line.length
      · rw [if_pos hlong, Connection.hear_of_open hc, if_pos hlong,
          Connection.foldl_hear_of_closed rfl]
        exact ⟨rfl, rfl⟩
      rw [if_neg hlong]
      cases htext : Text.Utf8.decode (dropReturn line) with
      | none =>
          rw [Connection.hear_of_open hc, if_neg hlong, Connection.line, htext,
            Connection.foldl_hear_of_closed rfl]
          exact ⟨(List.append_nil _).symm, rfl⟩
      | some text =>
          rw [Connection.hear_of_decode hc hp hlong htext]
          dsimp only
          by_cases hblank : Text.allBlank text = true
          · rw [if_pos hblank, if_pos hblank]
            exact ih hc hp
          · rw [if_neg hblank, if_neg hblank, exchange_eq]
            obtain ⟨hexchanges, hregistry⟩ := ih (c := { c with
              registry := (requestsIn [answerTo text]).foldl Registry.after c.registry
              exchanges := c.exchanges ++ [answerTo text] }) hc hp
            refine ⟨?_, ?_⟩
            · rw [hexchanges, List.append_assoc, List.singleton_append]
            · rw [hregistry, ← List.foldl_append, ← requestsIn_append, List.singleton_append]

/-- What a connection comes to on its own. -/
theorem run_eq_saidTo (maxLine : Nat) (r : Registry) (chunks : List Bytes) (ending : Ending) :
    (Connection.run maxLine r chunks ending).exchanges =
        saidTo maxLine (countedLines maxLine chunks.flatten ending) ∧
      (Connection.run maxLine r chunks ending).registry =
        (requestsIn (saidTo maxLine (countedLines maxLine chunks.flatten ending))).foldl
          Registry.after r := by
  rw [Connection.run_eq_foldl_hear]
  exact foldl_hear_eq (c := .start r) rfl rfl maxLine _

/-! ## Turns of one task -/

/-- What a task does in its next turn. -/
inductive Stage where
  | listening
  | deciding (q : Request)
  | replying (e : Exchange)

namespace Stage

/-- What is said before the next line is read. -/
def due : Stage → List Exchange
  | listening => []
  | deciding q => [⟨some q, q.reply⟩]
  | replying e => [e]

/-- The request of the line that was read last, once it is carried out. -/
def carriedOut : Stage → List Request
  | listening | deciding _ => []
  | replying e => e.request.toList

def turnsLeft : Stage → Nat
  | listening => 0
  | deciding _ => 2
  | replying _ => 1

end Stage

/-- A task: the lines that it has not read, how far it has come with the one that it read last, and
what it has sent. -/
structure Task where
  ahead : List Bytes
  stage : Stage
  said : List Exchange

namespace Task

def start (maxLine : Nat) (chunks : List Bytes) (ending : Ending) : Task :=
  ⟨countedLines maxLine chunks.flatten ending, .listening, []⟩

/-- Reads a line.  Nothing is read behind one that ends the connection. -/
def read (maxLine : Nat) (t : Task) : Task :=
  match t.ahead with
  | [] => t
  | line :: rest =>
    if maxLine < line.length then
      { t with ahead := [], stage := .replying ⟨none, tooLongReply maxLine⟩ }
    else
      match Text.Utf8.decode (dropReturn line) with
      | none => { t with ahead := [] }
      | some text =>
        if Text.allBlank text then { t with ahead := rest }
        else
          match Request.decode text with
          | .ok q => { t with ahead := rest, stage := .deciding q }
          | .error p => { t with ahead := rest, stage := .replying ⟨none, malformedReply p⟩ }

/-- The task after its next turn.  No store has a part in it. -/
def next (maxLine : Nat) (t : Task) : Task :=
  match t.stage with
  | .listening => t.read maxLine
  | .deciding q => { t with stage := .replying ⟨some q, q.reply⟩ }
  | .replying e => { t with stage := .listening, said := t.said ++ [e] }

/-- The request that the task carries out in its next turn. -/
def carries (t : Task) : Option Request :=
  match t.stage with
  | .deciding q => some q
  | _ => none

/-- The requests that the task has carried out. -/
def carriedOut (t : Task) : List Request :=
  requestsIn t.said ++ t.stage.carriedOut

/-- What the task has sent and will send. -/
def prospect (maxLine : Nat) (t : Task) : List Exchange :=
  t.said ++ (t.stage.due ++ saidTo maxLine t.ahead)

/-- How many turns the task needs at most. -/
def turnsLeft (t : Task) : Nat :=
  3 * t.ahead.length + t.stage.turnsLeft

/-- All lines are read and answered. -/
def IsDone (t : Task) : Prop :=
  t.ahead = [] ∧ t.stage = .listening

theorem read_nil {maxLine : Nat} {t : Task} (h : t.ahead = []) : t.read maxLine = t := by
  rw [read, h]

/-- Whatever line is read, the task goes on to say what is due to it. -/
theorem read_cons (maxLine : Nat) (line : Bytes) (rest : List Bytes) (said : List Exchange) :
    ∃ ahead stage, read maxLine ⟨line :: rest, .listening, said⟩ = ⟨ahead, stage, said⟩ ∧
      stage.due ++ saidTo maxLine ahead = saidTo maxLine (line :: rest) ∧
      stage.carriedOut = [] ∧ ahead.length ≤ rest.length := by
  rw [read, saidTo]
  dsimp only
  by_cases hlong : maxLine < line.length
  · rw [if_pos hlong, if_pos hlong]
    exact ⟨_, _, rfl, rfl, rfl, Nat.zero_le _⟩
  rw [if_neg hlong, if_neg hlong]
  cases Text.Utf8.decode (dropReturn line) with
  | none => exact ⟨_, _, rfl, rfl, rfl, Nat.zero_le _⟩
  | some text =>
      dsimp only
      by_cases hblank : Text.allBlank text = true
      · rw [if_pos hblank, if_pos hblank]
        exact ⟨_, _, rfl, rfl, rfl, Nat.le_refl _⟩
      · rw [if_neg hblank, if_neg hblank, answerTo]
        cases Request.decode text with
        | ok q => exact ⟨_, _, rfl, rfl, rfl, Nat.le_refl _⟩
        | error p => exact ⟨_, _, rfl, rfl, rfl, Nat.le_refl _⟩

theorem read_request {maxLine : Nat} {q : Request}
    (hq : (Text.Utf8.encode q.toJson.write).length ≤ maxLine) (rest : List Bytes)
    (said : List Exchange) :
    read maxLine ⟨Text.Utf8.encode q.toJson.write :: rest, .listening, said⟩ =
      ⟨rest, .deciding q, said⟩ := by
  have htext : Text.Utf8.decode (dropReturn (Text.Utf8.encode q.toJson.write)) =
      some q.toJson.write := by
    rw [dropReturn_encode (Json.noControls_write _), Text.Utf8.decode_encode]
  have hspoken : Text.allBlank q.toJson.write = false := allBlank_write_object _
  rw [read]
  simp [Nat.not_lt.2 hq, htext, hspoken, Request.decode_toJson]

/-- The empty line in front of the end of a stream is not answered. -/
theorem read_end (maxLine : Nat) (said : List Exchange) :
    read maxLine ⟨[[]], .listening, said⟩ = ⟨[], .listening, said⟩ := by
  have htext : Text.Utf8.decode (dropReturn []) = some [] := Text.Utf8.decode_encode []
  simp [read, htext, Text.allBlank]

theorem prospect_next (maxLine : Nat) (t : Task) :
    (t.next maxLine).prospect maxLine = t.prospect maxLine := by
  obtain ⟨ahead, stage, said⟩ := t
  cases stage with
  | listening =>
      cases ahead with
      | nil => rw [next, read_nil rfl]
      | cons line rest =>
          obtain ⟨ahead, stage, hread, hdue, -, -⟩ := read_cons maxLine line rest said
          rw [next, hread, prospect, hdue]
          rfl
  | deciding q => rfl
  | replying e => simp [next, prospect, Stage.due]

theorem carriedOut_next (maxLine : Nat) (t : Task) :
    (t.next maxLine).carriedOut = t.carriedOut ++ t.carries.toList := by
  obtain ⟨ahead, stage, said⟩ := t
  cases stage with
  | listening =>
      cases ahead with
      | nil => simp [next, read_nil, carries]
      | cons line rest =>
          obtain ⟨ahead, stage, hread, -, hnone, -⟩ := read_cons maxLine line rest said
          rw [next, hread, carriedOut, hnone]
          exact (List.append_nil _).symm
  | deciding q => simp [next, carriedOut, carries, Stage.carriedOut]
  | replying e =>
      have hsaid : requestsIn (said ++ [e]) = requestsIn said ++ e.request.toList := by
        rw [requestsIn_append, requestsIn_singleton]
      simp [next, carriedOut, carries, Stage.carriedOut, hsaid]

theorem turnsLeft_next (maxLine : Nat) (t : Task) :
    (t.next maxLine).turnsLeft ≤ t.turnsLeft - 1 := by
  obtain ⟨ahead, stage, said⟩ := t
  cases stage with
  | listening =>
      cases ahead with
      | nil => simp [next, read_nil, turnsLeft, Stage.turnsLeft]
      | cons line rest =>
          obtain ⟨ahead, stage, hread, -, -, hlength⟩ := read_cons maxLine line rest said
          have hstage : stage.turnsLeft ≤ 2 := by cases stage <;> simp [Stage.turnsLeft]
          rw [next, hread]
          show 3 * ahead.length + stage.turnsLeft ≤ 3 * (rest.length + 1) + 0 - 1
          omega
  | deciding q => simp [next, turnsLeft, Stage.turnsLeft]
  | replying e => simp [next, turnsLeft, Stage.turnsLeft]

theorem isDone_of_turnsLeft {t : Task} (h : t.turnsLeft = 0) : t.IsDone := by
  obtain ⟨ahead, stage, said⟩ := t
  rw [turnsLeft, Nat.add_eq_zero_iff] at h
  obtain ⟨hahead, hstage⟩ := h
  refine ⟨List.length_eq_zero_iff.1 (by omega), ?_⟩
  cases stage with
  | listening => rfl
  | deciding q => cases hstage
  | replying e => cases hstage

theorem prospect_iterate (maxLine : Nat) (t : Task) (n : Nat) :
    ((next maxLine)^[n] t).prospect maxLine = t.prospect maxLine := by
  induction n with
  | zero => rfl
  | succ n ih => rw [Function.iterate_succ_apply', prospect_next, ih]

theorem turnsLeft_iterate (maxLine : Nat) (t : Task) (n : Nat) :
    ((next maxLine)^[n] t).turnsLeft ≤ t.turnsLeft - n := by
  induction n with
  | zero => exact Nat.le_refl _
  | succ n ih =>
      rw [Function.iterate_succ_apply']
      have hnext := turnsLeft_next maxLine ((next maxLine)^[n] t)
      omega

theorem said_isPrefix (maxLine : Nat) (t : Task) : t.said <+: t.prospect maxLine :=
  List.prefix_append _ _

theorem IsDone.said_eq {t : Task} (h : t.IsDone) (maxLine : Nat) :
    t.said = t.prospect maxLine := by
  rw [prospect, h.1, h.2]
  exact (List.append_nil _).symm

theorem IsDone.carriedOut_eq {t : Task} (h : t.IsDone) : t.carriedOut = requestsIn t.said := by
  rw [carriedOut, h.2]
  exact List.append_nil _

end Task

/-! ## Turns of all tasks -/

/-- A turn of the task of a connection, and how the log and the walks of the store are set in it. -/
structure Slice (ι : Type) where
  connection : ι
  log : Log
  walk : Walk

/-- The store, the tasks, and the requests that were carried out so far, with their connections. -/
structure Switchboard (ι : Type) where
  registry : Registry
  tasks : ι → Task
  carried : List (ι × Request)

variable {ι : Type} [DecidableEq ι]

namespace Switchboard

def start (maxLine : Nat) (r : Registry) (input : ι → List Bytes × Ending) : Switchboard ι :=
  ⟨r, fun i => .start maxLine (input i).1 (input i).2, []⟩

def turn (maxLine : Nat) (s : Switchboard ι) (now : Slice ι) : Switchboard ι :=
  let i := now.connection
  let task := s.tasks i
  match task.stage with
  | .listening => { s with tasks := Function.update s.tasks i (task.read maxLine) }
  | .deciding q =>
    let done := s.registry.handle now.log now.walk q
    { registry := done.registry
      tasks := Function.update s.tasks i { task with stage := .replying ⟨some q, done.result⟩ }
      carried := s.carried ++ [(i, q)] }
  | .replying e =>
    { s with
      tasks := Function.update s.tasks i
        { task with stage := .listening, said := task.said ++ [e] } }

def run (maxLine : Nat) (s : Switchboard ι) (slices : List (Slice ι)) : Switchboard ι :=
  slices.foldl (turn maxLine) s

/-- The requests of a connection that were carried out. -/
def carriedFor (s : Switchboard ι) (i : ι) : List Request :=
  (s.carried.filter (·.1 = i)).map (·.2)

/-- The accepted requests about a key, in the order in which they were carried out. -/
def settling (s : Switchboard ι) (k : String) : List Request :=
  Request.settling k (s.carried.map (·.2))

/-- One turn moves one task on, and the store changes by the request that is carried out in it. -/
theorem turn_eq (maxLine : Nat) (s : Switchboard ι) (now : Slice ι) :
    s.turn maxLine now =
      { registry := (s.tasks now.connection).carries.toList.foldl Registry.after s.registry
        tasks := Function.update s.tasks now.connection ((s.tasks now.connection).next maxLine)
        carried := s.carried ++
          (s.tasks now.connection).carries.toList.map (now.connection, ·) } := by
  rw [turn]
  cases hstage : (s.tasks now.connection).stage with
  | listening | replying e => simp [Task.next, Task.carries, hstage]
  | deciding q =>
      simp [Task.next, Task.carries, hstage, Registry.handle_result, Registry.handle_registry]

theorem run_cons (maxLine : Nat) (s : Switchboard ι) (now : Slice ι) (later : List (Slice ι)) :
    s.run maxLine (now :: later) = (s.turn maxLine now).run maxLine later := rfl

/-- Where a task stands depends on the number of its own turns. -/
theorem tasks_run (maxLine : Nat) (s : Switchboard ι) (slices : List (Slice ι)) (i : ι) :
    (s.run maxLine slices).tasks i =
      (Task.next maxLine)^[slices.countP (·.connection = i)] (s.tasks i) := by
  induction slices generalizing s with
  | nil => rfl
  | cons now later ih =>
      rw [run_cons, ih, turn_eq]
      dsimp only
      by_cases hi : now.connection = i
      · subst hi
        rw [Function.update_self, List.countP_cons_of_pos (by simp), Function.iterate_succ_apply]
      · rw [Function.update_of_ne (Ne.symm hi), List.countP_cons_of_neg (by simpa using hi)]

/-- The store is what the requests have made of it, and each task knows which of them it sent. -/
structure Consistent (r : Registry) (s : Switchboard ι) : Prop where
  registry_eq : s.registry = (s.carried.map (·.2)).foldl Registry.after r
  carriedFor_eq : ∀ i, s.carriedFor i = (s.tasks i).carriedOut

theorem consistent_start (maxLine : Nat) (r : Registry) (input : ι → List Bytes × Ending) :
    (start maxLine r input).Consistent r :=
  ⟨rfl, fun _ => rfl⟩

theorem Consistent.turn {r : Registry} {s : Switchboard ι} (h : s.Consistent r) (maxLine : Nat)
    (now : Slice ι) : (s.turn maxLine now).Consistent r := by
  rw [turn_eq]
  constructor
  · simp [h.registry_eq, Function.comp_def]
  · intro i
    have hbefore := h.carriedFor_eq i
    rw [carriedFor] at hbefore ⊢
    dsimp only
    rw [List.filter_append, List.map_append, hbefore]
    by_cases hi : now.connection = i
    · subst hi
      rw [Function.update_self, Task.carriedOut_next]
      simp [List.filter_map, Function.comp_def]
    · rw [Function.update_of_ne (Ne.symm hi)]
      simp [List.filter_map, Function.comp_def, hi]

theorem Consistent.run {r : Registry} {s : Switchboard ι} (h : s.Consistent r) (maxLine : Nat)
    (slices : List (Slice ι)) : (s.run maxLine slices).Consistent r := by
  induction slices generalizing s with
  | nil => exact h
  | cons now later ih => exact ih (h.turn maxLine now)

theorem mem_carried_run {maxLine : Nat} {s : Switchboard ι} {slices : List (Slice ι)}
    {c : ι × Request} (h : c ∈ (s.run maxLine slices).carried) :
    c ∈ s.carried ∨ ∃ now ∈ slices, now.connection = c.1 := by
  induction slices generalizing s with
  | nil => exact .inl h
  | cons now later ih =>
      obtain hturn | ⟨now', hmem, hnow'⟩ := ih h
      · rw [turn_eq, List.mem_append] at hturn
        obtain hbefore | hcarried := hturn
        · exact .inl hbefore
        · obtain ⟨q, -, rfl⟩ := List.mem_map.1 hcarried
          exact .inr ⟨now, List.mem_cons_self, rfl⟩
      · exact .inr ⟨now', List.mem_cons_of_mem now hmem, hnow'⟩

end Switchboard

section Alone

variable {maxLine : Nat} {r : Registry} {input : ι → List Bytes × Ending} {slices : List (Slice ι)}
  {i : ι}

theorem prospect_run :
    (((Switchboard.start maxLine r input).run maxLine slices).tasks i).prospect maxLine =
      (Connection.run maxLine .empty (input i).1 (input i).2).exchanges := by
  rw [Switchboard.tasks_run, Task.prospect_iterate, (run_eq_saidTo maxLine _ _ _).1]
  rfl

theorem carriedFor_run_of_isDone
    (hdone : (((Switchboard.start maxLine r input).run maxLine slices).tasks i).IsDone) :
    ((Switchboard.start maxLine r input).run maxLine slices).carriedFor i =
      requestsIn (Connection.run maxLine .empty (input i).1 (input i).2).exchanges := by
  have hconsistent := (Switchboard.consistent_start maxLine r input).run maxLine slices
  rw [hconsistent.carriedFor_eq, hdone.carriedOut_eq, hdone.said_eq maxLine, prospect_run]

theorem isDone_run
    (h : 3 * (countedLines maxLine (input i).1.flatten (input i).2).length ≤
      slices.countP (·.connection = i)) :
    (((Switchboard.start maxLine r input).run maxLine slices).tasks i).IsDone := by
  have hleft := Task.turnsLeft_iterate maxLine ((Switchboard.start maxLine r input).tasks i)
    (slices.countP (·.connection = i))
  have hstart : ((Switchboard.start maxLine r input).tasks i).turnsLeft =
      3 * (countedLines maxLine (input i).1.flatten (input i).2).length := rfl
  rw [← Switchboard.tasks_run, hstart, Nat.sub_eq_zero_of_le h] at hleft
  exact Task.isDone_of_turnsLeft (Nat.le_zero.1 hleft)

/-- A connection that is served alone is served as if there were no turns. -/
theorem registry_run_alone (hslices : ∀ now ∈ slices, now.connection = i)
    (hdone : (((Switchboard.start maxLine r input).run maxLine slices).tasks i).IsDone) :
    ((Switchboard.start maxLine r input).run maxLine slices).registry =
      (Connection.run maxLine r (input i).1 (input i).2).registry := by
  have hconsistent := (Switchboard.consistent_start maxLine r input).run maxLine slices
  have hown : ∀ c ∈ ((Switchboard.start maxLine r input).run maxLine slices).carried, c.1 = i := by
    intro c hc
    obtain hnone | ⟨now, hmem, hnow⟩ := Switchboard.mem_carried_run hc
    · cases hnone
    · exact hnow.symm.trans (hslices now hmem)
  have hcarried := carriedFor_run_of_isDone hdone
  rw [Switchboard.carriedFor, List.filter_eq_self.2 (by simpa using hown),
    (run_eq_saidTo maxLine _ _ _).1] at hcarried
  rw [hconsistent.registry_eq, hcarried, (run_eq_saidTo maxLine _ _ _).2]

end Alone

/-- Whatever turns the connections take, what is said on each is what is said on it alone, and the
registry depends on the order of the accepted requests about each key alone. -/
theorem interleavings_agree (maxLine : Nat) (r : Registry) (input : ι → List Bytes × Ending) :
    let board := (Switchboard.start maxLine r input).run maxLine
    let alone := fun i => Connection.run maxLine .empty (input i).1 (input i).2
    (∀ (slices : List (Slice ι)) (i : ι),
        ((board slices).tasks i).said <+: (alone i).exchanges ∧
          (((board slices).tasks i).IsDone →
            ((board slices).tasks i).said = (alone i).exchanges ∧
              (board slices).carriedFor i = requestsIn (alone i).exchanges) ∧
          (3 * (countedLines maxLine (input i).1.flatten (input i).2).length ≤
              slices.countP (·.connection = i) →
            ((board slices).tasks i).IsDone)) ∧
      (∀ slices₁ slices₂ : List (Slice ι),
        (∀ k, (board slices₁).settling k = (board slices₂).settling k) →
          (board slices₁).registry = (board slices₂).registry) ∧
      ∀ (now₁ now₂ : Slice ι) (q₁ q₂ : Request), q₁.key ≠ q₂.key →
        ((r.handle now₁.log now₁.walk q₁).registry.handle now₂.log now₂.walk q₂).registry =
          ((r.handle now₂.log now₂.walk q₂).registry.handle now₁.log now₁.walk q₁).registry := by
  intro board alone
  have hconsistent : ∀ slices, (board slices).Consistent r :=
    (Switchboard.consistent_start maxLine r input).run maxLine
  refine ⟨?_, ?_, ?_⟩
  · intro slices i
    have hprospect : ((board slices).tasks i).prospect maxLine = (alone i).exchanges := prospect_run
    refine ⟨?_, ?_, isDone_run⟩
    · rw [← hprospect]
      exact Task.said_isPrefix maxLine _
    · intro hdone
      exact ⟨(hdone.said_eq maxLine).trans hprospect, carriedFor_run_of_isDone hdone⟩
  · intro slices₁ slices₂ hsettling
    rw [(hconsistent slices₁).registry_eq, (hconsistent slices₂).registry_eq]
    exact Registry.foldl_after_congr hsettling r
  · intro now₁ now₂ q₁ q₂ hkeys
    simp only [Registry.handle_registry]
    exact Registry.after_comm hkeys r

/-- Two connections with one request each, about different keys. -/
def rivals (i : Bool) : Request :=
  { frontendAddr := "127.0.0.1", frontendPort := if i then 80 else 81, backendAddr := "::1",
    backendPort := 8080, service := "web", environment := "dev", mode := "tcp",
    action := if i then .register else .deregister }

/-- One connection has all its turns before the other has any. -/
def oneByOne (first : Bool) : List (Slice Bool) :=
  (List.replicate 6 first ++ List.replicate 6 !first).map (⟨·, .off, .whole⟩)

def rivalsBoard (first : Bool) : Switchboard Bool :=
  (Switchboard.start standardMaxLine .empty fun i => ([requestLine (rivals i)], .closed)).run
    standardMaxLine (oneByOne first)

theorem carried_rivalsBoard (first : Bool) :
    (rivalsBoard first).carried = [(first, rivals first), (!first, rivals !first)] := by
  have hfits : ∀ i, (Text.Utf8.encode (rivals i).toJson.write).length ≤ standardMaxLine := by
    decide +kernel
  have hread := fun i => Task.read_request (hfits i)
  have hend : countedLines standardMaxLine [] .closed = [[]] := by
    rw [countedLines_of_not_mem (by simp), if_pos (.inl rfl)]
  cases first <;>
    simp [rivalsBoard, oneByOne, Switchboard.run, Switchboard.turn_eq, Switchboard.start, Task.start,
      countedLines_requestLine, hend, Task.next, Task.carries, hread, Task.read_end, Task.read_nil,
      Function.update, List.replicate_succ]

theorem interleavings_agree_rivals :
    (rivalsBoard true).carried ≠ (rivalsBoard false).carried ∧
      (rivalsBoard true).registry = (rivalsBoard false).registry ∧
      ∀ i, ((rivalsBoard true).tasks i).said =
        (Connection.run standardMaxLine .empty [requestLine (rivals i)] .closed).exchanges := by
  have hkeys : (rivals true).key ≠ (rivals false).key := by decide
  have hagree := interleavings_agree standardMaxLine .empty
    fun i => ([requestLine (rivals i)], Ending.closed)
  have hsettling : ∀ k, (rivalsBoard true).settling k = (rivalsBoard false).settling k := by
    intro k
    rw [Switchboard.settling, Switchboard.settling, carried_rivalsBoard, carried_rivalsBoard]
    exact Request.settling_pair hkeys k
  refine ⟨?_, hagree.2.1 _ _ hsettling, fun i => ?_⟩
  · rw [carried_rivalsBoard, carried_rivalsBoard]
    simp
  · have hlines : 3 * (countedLines standardMaxLine [requestLine (rivals i)].flatten .closed).length ≤
        6 := by
      rw [List.flatten_singleton, countedLines_requestLine, countedLines_of_not_mem (by simp),
        if_pos (.inl rfl)]
      exact Nat.le_refl 6
    have hturns : 6 ≤ (oneByOne true).countP (·.connection = i) := by
      cases i <;> simp [oneByOne, List.replicate_succ]
    obtain ⟨-, hsaid, hdone⟩ := hagree.1 (oneByOne true) i
    have hall := (hsaid (hdone (hlines.trans hturns))).1
    rw [rivalsBoard]
    exact hall

end Channel

end MeshRegistry
