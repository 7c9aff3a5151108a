import Mathlib.Data.List.Infix
import Notetaker.PythonUuid

/-!
# Container names and the startup sweep

A bot runs in the container `oreeai-bot-<call id>`. The startup sweep lists the containers whose name
contains that prefix, reads the rest of each name as a UUID, and issues docker commands. The
production stack names its own containers `<project>-<service>-<index>`; the runner's service is
`bot-runner`, so its container carries the prefix of a bot.
-/

open PythonText PythonUuid

namespace Notetaker

def containerPrefix : Text := "oreeai-bot-".toList

def containerName (id : Uuid) : Text := containerPrefix ++ id.text

inductive DockerCommand where
  | kill (name : Text)
  | rmForce (name : Text)
  deriving DecidableEq

def DockerCommand.target : DockerCommand → Text
  | kill name | rmForce name => name

/-- What the sweep makes of one line of the listing. -/
inductive ListedContainer where
  | foreign
  | nonCall (name : Text)
  | bot (name : Text) (id : Uuid)
  deriving DecidableEq

def classify (line : Text) : ListedContainer :=
  let name := strip line
  match containerPrefix.isPrefixOf? name with
  | none => .foreign
  | some raw => match parse raw with
      | none => .nonCall name
      | some id => .bot name id

def ListedContainer.commands : ListedContainer → List DockerCommand
  | foreign => []
  | nonCall name => [.rmForce name]
  | bot name _ => [.kill name, .rmForce name]

def listedContainers (stdout : Text) : List ListedContainer := (splitLines stdout).map classify

/-- The commands of `orphan_sweep` for the exit code and the output of `docker ps`. -/
def orphanCommands (code : ℤ) (stdout : Text) : List DockerCommand :=
  if code ≠ 0 then [] else (listedContainers stdout).flatMap ListedContainer.commands

/-! ## The host -/

/-- The character set of docker container names. -/
def isDockerNameChar (c : Char) : Bool := c.isAlphanum || c ∈ "_.-".toList

/-- `docker ps -a --filter name=oreeai-bot- --format {{.Names}}`: the filter matches anywhere. -/
def dockerPs (names : List Text) : Text :=
  (names.filter fun name => containerPrefix <:+: name).flatMap (· ++ ['\n'])

def composeProject : Text := "oreeai".toList

def stackServices : List Text :=
  ["db".toList, "redis".toList, "api".toList, "bot-runner".toList]

def composeName (service : Text) (index : ℕ) : Text :=
  composeProject ++ '-' :: service ++ '-' :: natText index

/-- The containers of a host on which the production stack runs. -/
structure StackHost where
  names : List Text
  wellNamed : ∀ name ∈ names, ∀ c ∈ name, isDockerNameChar c
  index : Text → ℕ
  running : ∀ service ∈ stackServices, composeName service (index service) ∈ names

/-- Every command is about a spawned bot, and none is about a service of the stack. -/
def OnlyBots (commands : List DockerCommand) : Prop :=
  ∀ command ∈ commands, (∃ id, command.target = containerName id) ∧
    ∀ service ∈ stackServices, ∀ i, command.target ≠ composeName service i

theorem isDockerNameChar_of_mem_containerPrefix :
    ∀ c ∈ containerPrefix, isDockerNameChar c := forall_mem_of_all (by decide)

theorem not_isDockerNameChar_of_mem_lineBreaks :
    ∀ c ∈ lineBreaks, isDockerNameChar c = false := forall_mem_of_all (by decide)

theorem not_isDockerNameChar_of_isSpace {c : Char} (h : isSpace c) :
    isDockerNameChar c = false := by
  have hall : ∀ d ∈ whitespace.map Char.ofNat, isDockerNameChar d = false :=
    forall_mem_of_all (by decide)
  exact hall c (List.mem_map.2 ⟨c.toNat, by simpa [isSpace] using h, Char.ofNat_toNat c⟩)

theorem splitLines_dockerPs {names : List Text} (h : ∀ name ∈ names, ∀ c ∈ name, isDockerNameChar c) :
    splitLines (dockerPs names) = names.filter fun name => containerPrefix <:+: name := by
  refine splitLines_flatMap _ fun name hname c hc hbreak => ?_
  have hplain := h name (List.mem_of_mem_filter hname) c hc
  rw [not_isDockerNameChar_of_mem_lineBreaks c hbreak] at hplain
  cases hplain

theorem classify_of_plain {raw : Text} (h : ∀ c ∈ containerPrefix ++ raw, isDockerNameChar c) :
    classify (containerPrefix ++ raw) = match parse raw with
      | none => .nonCall (containerPrefix ++ raw)
      | some id => .bot (containerPrefix ++ raw) id := by
  have hstrip : strip (containerPrefix ++ raw) = containerPrefix ++ raw :=
    strip_of_forall fun c hc => by
      by_contra hspace
      have hplain := h c hc
      rw [not_isDockerNameChar_of_isSpace (by simpa using hspace)] at hplain
      cases hplain
  unfold classify
  rw [hstrip]
  simp only [isPrefixOf?_append]

theorem isDockerNameChar_of_hexDigit : ∀ d < 16, isDockerNameChar (hexDigit d) := by decide

theorem isDockerNameChar_of_mem_containerName (id : Uuid) :
    ∀ c ∈ containerName id, isDockerNameChar c := by
  intro c hc
  rcases List.mem_append.1 hc with hc | hc
  · exact isDockerNameChar_of_mem_containerPrefix c hc
  · exact Uuid.forall_mem_text (P := fun c => isDockerNameChar c)
      isDockerNameChar_of_hexDigit (by decide) id c hc

theorem classify_containerName (id : Uuid) :
    classify (containerName id) = .bot (containerName id) id := by
  rw [containerName, classify_of_plain (isDockerNameChar_of_mem_containerName id), parse_text]

/-! ## The runner's own container -/

def runnerSuffix (index : ℕ) : Text := "runner-".toList ++ natText index

theorem composeName_runner (index : ℕ) :
    composeName "bot-runner".toList index = containerPrefix ++ runnerSuffix index := rfl

theorem filter_runnerWord :
    "runner-".toList.filter (· ≠ hyphen) = ['r', 'u', 'n', 'n', 'e', 'r'] := by decide

theorem mem_runnerSuffix {index : ℕ} {c : Char} (h : c ∈ runnerSuffix index) :
    c ∈ "runner-".toList ∨ c.isDigit := by
  rcases List.mem_append.1 h with h | h
  · exact Or.inl h
  · exact Or.inr (isDigit_of_mem_natText h)

theorem notMem_runnerSuffix {index : ℕ} {c : Char} (hdigit : c.isDigit = false)
    (hword : c ∉ "runner-".toList) : c ∉ runnerSuffix index := by
  intro h
  rcases mem_runnerSuffix h with h | h
  · exact hword h
  · rw [hdigit] at h
    cases h

theorem parse_runnerSuffix (index : ℕ) : parse (runnerSuffix index) = none := by
  have hnot : ∀ chars : Text, (∀ d ∈ chars, d.isDigit = false ∧ d ∉ "runner-".toList) →
      ∀ c ∈ runnerSuffix index, c ∉ chars := by
    intro chars h c hc hmem
    obtain ⟨hdigit, hword⟩ := h c hmem
    exact notMem_runnerSuffix hdigit hword hc
  have hascii : ∀ c ∈ runnerSuffix index, c.toNat < 128 := by
    intro c hc
    rcases mem_runnerSuffix hc with hc | hc
    · exact forall_mem_of_all (P := fun c => c.toNat < 128) (by decide) c hc
    · have hle : c.toNat ≤ 57 := (Char.isDigit_iff_toNat.1 hc).2
      omega
  have hhead : (runnerSuffix index).filter (· ≠ hyphen) =
      'r' :: (['u', 'n', 'n', 'e', 'r'] ++ (natText index).filter (· ≠ hyphen)) := by
    unfold runnerSuffix
    rw [List.filter_append, filter_runnerWord]
    rfl
  exact parse_eq_none (notMem_runnerSuffix (by decide) (by decide)) (hnot _ (forall_mem_of_all (by decide))) hascii
    (hnot _ (forall_mem_of_all (by decide))) (notMem_runnerSuffix (by decide) (by decide))
    (notMem_runnerSuffix (by decide) (by decide)) (notMem_runnerSuffix (by decide) (by decide))
    hhead (by decide) (by decide)

theorem classify_runner (index : ℕ) :
    classify (composeName "bot-runner".toList index) =
      .nonCall (composeName "bot-runner".toList index) := by
  have hplain : ∀ c ∈ containerPrefix ++ runnerSuffix index, isDockerNameChar c := by
    intro c hc
    rcases List.mem_append.1 hc with hc | hc
    · exact isDockerNameChar_of_mem_containerPrefix c hc
    · rcases mem_runnerSuffix hc with hc | hc
      · exact forall_mem_of_all (P := fun c => isDockerNameChar c) (by decide) c hc
      · simp [isDockerNameChar, Char.isAlphanum, hc]
  rw [composeName_runner, classify_of_plain hplain, parse_runnerSuffix]

/-- On every host of the stack the sweep removes the container it runs in. -/
theorem rmForce_runner_mem (host : StackHost) :
    .rmForce (composeName "bot-runner".toList (host.index "bot-runner".toList)) ∈
      orphanCommands 0 (dockerPs host.names) := by
  set runner := composeName "bot-runner".toList (host.index "bot-runner".toList) with hrunner
  have hlisted : runner ∈ host.names.filter fun name => containerPrefix <:+: name := by
    refine List.mem_filter.2 ⟨host.running _ (by decide), decide_eq_true ?_⟩
    rw [hrunner, composeName_runner]
    exact (List.prefix_append containerPrefix _).isInfix
  change _ ∈ (listedContainers (dockerPs host.names)).flatMap ListedContainer.commands
  rw [listedContainers, splitLines_dockerPs host.wellNamed]
  refine List.mem_flatMap.2 ⟨classify runner, List.mem_map_of_mem hlisted, ?_⟩
  rw [hrunner, classify_runner]
  exact List.mem_singleton_self _

/-- No listing of a host on which the stack runs is swept of bots only. -/
theorem not_onlyBots_orphanCommands (host : StackHost) :
    ¬ OnlyBots (orphanCommands 0 (dockerPs host.names)) := by
  intro h
  exact (h _ (rmForce_runner_mem host)).2 "bot-runner".toList (by decide) _ rfl

/-- The stack alone, every service at index 1. -/
def freshHost : StackHost where
  names := stackServices.map fun service => composeName service 1
  wellNamed := by
    have hall : ((stackServices.map fun service => composeName service 1).all fun name =>
        name.all isDockerNameChar) = true := by decide
    simpa using hall
  index _ := 1
  running service hservice := List.mem_map_of_mem hservice

theorem orphanCommands_freshHost :
    orphanCommands 0 (dockerPs freshHost.names) = [.rmForce "oreeai-bot-runner-1".toList] ∧
      ¬ OnlyBots (orphanCommands 0 (dockerPs freshHost.names)) := by
  have hcommands :
      orphanCommands 0 (dockerPs freshHost.names) = [.rmForce "oreeai-bot-runner-1".toList] := by
    decide
  refine ⟨hcommands, fun h => ?_⟩
  rw [hcommands] at h
  exact (h _ (List.mem_singleton_self _)).2 "bot-runner".toList (by decide) 1 (by decide)

end Notetaker
