import Notetaker.RecordingStore
import Notetaker.TransitionSystem

/-!
# Processes that start on one bucket

Several processes probe the same bucket at the same time, each with its own PID and `S3_SSE`, and use it
once they have started. Every request is a step of its own, and the steps interleave in any order. A
process that shares its PID with no other never sees another process's sentinel, so its verdict is the
one it would reach alone. Containers number their processes from 1 each, and there the verdict may be
wrong.
-/

open PythonText PythonUuid PythonBytes FaultyStore

namespace Notetaker.ObjectStorage

variable {σ ι : Type}

inductive ProbePhase where
  | starting
  /-- The sentinel is written. -/
  | written
  /-- The provider has echoed `S3_SSE`. -/
  | checked
  | accepted
  | refused (e : ObjectStorageError)

structure BucketState (σ ι : Type) where
  world : StorageWorld σ
  phase : ι → ProbePhase
  /-- The processes with a request that raised although the provider had no reason to. -/
  outages : List ι
  log : List (StorageCall × Except ObjectStorageError StorageAnswer)

inductive BucketEvent (ι : Type) where
  /-- The next request of the probe of a process. -/
  | probe (i : ι)
  | call (i : ι) (call : StorageCall)

structure BucketConfig (σ ι : Type) where
  client : S3Client σ
  /-- What is in the buckets. -/
  objects : σ → Text × Text → Option S3Object
  isPrintable : Char → Bool
  settings : StorageSettings
  bucket : Text
  /-- `os.getpid()` in each process, which another container may give as well. -/
  pid : ι → ℕ
  /-- `S3_SSE` of each process. -/
  sse : ι → Text

namespace BucketConfig

variable (cfg : BucketConfig σ ι)

def adapter (i : ι) : S3ObjectStorageClient := ⟨cfg.bucket, cfg.sse i⟩

/-- The verdict on an answered request: the next phase, or a refusal. -/
def verdict (next : ProbePhase) : Except ObjectStorageError Unit → ProbePhase
  | .ok () => next
  | .error e => .refused e

section Steps

variable [DecidableEq ι]

def proceed (s : BucketState σ ι) (i : ι) (next : ProbePhase) (raised : Bool)
    (answer : Except ObjectStorageError Unit × σ) : BucketState σ ι :=
  { s with
    world := { s.world with remote := answer.2 }
    phase := Function.update s.phase i (verdict next answer.1)
    outages := if raised then i :: s.outages else s.outages }

def step (s : BucketState σ ι) : BucketEvent ι → Option (BucketState σ ι)
  | .probe i =>
      match s.phase i with
      | .starting =>
          if cfg.sse i ∈ sseAlgorithms then
            let answer := (cfg.adapter i).probeWrite cfg.client (cfg.pid i) s.world.remote
            some (proceed s i .written (answer.1.isOk = false) answer)
          else some { s with
            phase := Function.update s.phase i (.refused ((cfg.adapter i).unknownSse cfg.isPrintable)) }
      | .written =>
          some (proceed s i .checked
            (((cfg.client.headObject cfg.bucket (probeKey (cfg.pid i))) s.world.remote).1.isOk = false ∧
              (cfg.objects s.world.remote (cfg.bucket, probeKey (cfg.pid i))).isSome)
            ((cfg.adapter i).probeRead cfg.isPrintable cfg.client (cfg.pid i) s.world.remote))
      | .checked =>
          let answer := (cfg.adapter i).probeCleanup cfg.client (cfg.pid i) s.world.remote
          some (proceed s i .accepted (answer.1.isOk = false) answer)
      | .accepted | .refused _ => none
  | .call i call =>
      match s.phase i with
      | .accepted =>
          let answer := (StorageClient.s3 (cfg.adapter i)).perform cfg.client cfg.settings call s.world
          some { s with world := answer.2, log := s.log ++ [(call, answer.1)] }
      | _ => none

/-- The processes start on a bucket with anything in it. -/
def system : TransitionSystem (BucketState σ ι) (BucketEvent ι) where
  init s := (∀ i, s.phase i = .starting) ∧ s.outages = [] ∧ s.log = []
  step := cfg.step

end Steps

def PhaseHolds (honoured : Text → Option Text) (s : BucketState σ ι) (i : ι) : ProbePhase → Prop
  | .starting => True
  | .written => cfg.sse i ∈ sseAlgorithms ∧
      cfg.objects s.world.remote (cfg.bucket, probeKey (cfg.pid i)) =
        some ⟨probeBody, honoured (cfg.sse i)⟩
  | .checked | .accepted => cfg.sse i ∈ sseAlgorithms ∧ honoured (cfg.sse i) = some (cfg.sse i)
  | .refused e =>
      (cfg.sse i ∉ sseAlgorithms ∧ e = (cfg.adapter i).unknownSse cfg.isPrintable) ∨
        (cfg.sse i ∈ sseAlgorithms ∧ honoured (cfg.sse i) ≠ some (cfg.sse i) ∧
          e = (cfg.adapter i).notHonoured cfg.isPrintable (honoured (cfg.sse i))) ∨
        i ∈ s.outages

variable {cfg} {honoured : Text → Option Text}

theorem phaseHolds_of_kept {s t : BucketState σ ι} {i : ι} {p : ProbePhase}
    (h : cfg.PhaseHolds honoured s i p)
    (hobject : cfg.objects t.world.remote (cfg.bucket, probeKey (cfg.pid i)) =
      cfg.objects s.world.remote (cfg.bucket, probeKey (cfg.pid i)))
    (houtages : ∀ j ∈ s.outages, j ∈ t.outages) : cfg.PhaseHolds honoured t i p := by
  cases p with
  | starting => trivial
  | written => exact ⟨h.1, hobject.trans h.2⟩
  | checked => exact h
  | accepted => exact h
  | refused e =>
      rcases h with hunknown | hecho | houtage
      · exact .inl hunknown
      · exact .inr (.inl hecho)
      · exact .inr (.inr (houtages i houtage))

/-! ## The requests of a probe -/

theorem probeKey_ne {pid pid' : ℕ} (h : pid ≠ pid') (bucket : Text) :
    (bucket, probeKey pid) ≠ (bucket, probeKey pid') := by
  intro heq
  have hkey : probeKey pid = probeKey pid' := (Prod.ext_iff.1 heq).2
  apply h
  apply natText_injective
  simpa [probeKey, concat] using hkey

theorem effect_probeWrite (hlaw : cfg.client.Lawful cfg.objects honoured) (i : ι) (s : σ) :
    StoreEffect (fun _ => ∅) (.put (cfg.bucket, probeKey (cfg.pid i)) ⟨probeBody, honoured (cfg.sse i)⟩)
      (cfg.objects s) ((cfg.adapter i).probeWrite cfg.client (cfg.pid i) s).1.isOk
      (cfg.objects ((cfg.adapter i).probeWrite cfg.client (cfg.pid i) s).2) := by
  unfold S3ObjectStorageClient.probeWrite
  rw [isOk_raiseFrom, snd_raiseFrom]
  exact hlaw.putObject _ _ _ _ s

theorem objects_probeRead (hlaw : cfg.client.Lawful cfg.objects honoured) (i : ι) (s : σ) :
    cfg.objects ((cfg.adapter i).probeRead cfg.isPrintable cfg.client (cfg.pid i) s).2 = cfg.objects s := by
  have hkeeps : Effectful.Keeps (fun t => cfg.objects t = cfg.objects s)
      ((cfg.adapter i).probeRead cfg.isPrintable cfg.client (cfg.pid i)) := by
    refine Effectful.Keeps.bind (keeps_raiseFrom fun t ht => ?_) fun head => ?_
    · rw [hlaw.headObject, ht]
    · split_ifs
      · exact fun t ht => ht
      · exact Effectful.keeps_pure ()
  exact hkeeps s rfl

theorem probeRead_of_head {client : S3Client σ} {c : S3ObjectStorageClient} {isPrintable : Char → Bool}
    {pid : ℕ} {s t : σ} {head : S3Head} (h : client.headObject c.bucket (probeKey pid) s = (.ok head, t)) :
    (c.probeRead isPrintable client pid s).1 =
      if head.serverSideEncryption = some c.sse then .ok ()
      else .error (c.notHonoured isPrintable head.serverSideEncryption) := by
  have hraise : raiseFrom probeErrors c.probeFailed (client.headObject c.bucket (probeKey pid)) s =
      (.ok head, t) := by
    unfold raiseFrom
    rw [h]
  unfold S3ObjectStorageClient.probeRead
  rw [Effectful.bind_of_ok hraise]
  by_cases hecho : head.serverSideEncryption = some c.sse
  · rw [if_pos hecho, if_neg (not_not.2 hecho)]
    rfl
  · rw [if_neg hecho, if_pos hecho]
    rfl

theorem isOk_probeRead_of_error {client : S3Client σ} {c : S3ObjectStorageClient}
    {isPrintable : Char → Bool} {pid : ℕ} {s t : σ} {e : S3Exception}
    (h : client.headObject c.bucket (probeKey pid) s = (.error e, t)) :
    (c.probeRead isPrintable client pid s).1.isOk = false := by
  have hraise : raiseFrom probeErrors c.probeFailed (client.headObject c.bucket (probeKey pid)) s =
      (.error (if e.kind ∈ probeErrors then c.probeFailed else .escaped e), t) := by
    unfold raiseFrom
    rw [h]
  unfold S3ObjectStorageClient.probeRead
  rw [Effectful.bind_of_error hraise]
  rfl

theorem effect_probeCleanup (hlaw : cfg.client.Lawful cfg.objects honoured) (i : ι) (s : σ) :
    ∃ acknowledged, StoreEffect (fun _ => ∅) (.delete (cfg.bucket, probeKey (cfg.pid i)))
      (cfg.objects s) acknowledged
      (cfg.objects ((cfg.adapter i).probeCleanup cfg.client (cfg.pid i) s).2) := by
  have heffect := hlaw.deleteObject cfg.bucket (probeKey (cfg.pid i)) s
  refine ⟨(cfg.client.deleteObject cfg.bucket (probeKey (cfg.pid i)) s).1.isOk, ?_⟩
  unfold S3ObjectStorageClient.probeCleanup
  rw [show (cfg.adapter i).bucket = cfg.bucket from rfl]
  rcases hdelete : cfg.client.deleteObject cfg.bucket (probeKey (cfg.pid i)) s with ⟨_ | _, t⟩ <;>
    rwa [hdelete] at heffect

end BucketConfig

/-! ## The requests of a call -/

/-- What an operation for a call does, it does under the key of the call. -/
theorem S3ObjectStorageClient.objects_perform {client : S3Client σ} {cfg : StorageSettings}
    {objects : σ → Text × Text → Option S3Object} {honoured : Text → Option Text}
    (hlaw : client.Lawful objects honoured) (c : S3ObjectStorageClient) (call : StorageCall)
    (w : StorageWorld σ) {bucket key : Text} (hkey : ∀ id, key ≠ audioKey id) :
    objects ((StorageClient.s3 c).perform client cfg call w).2.remote (bucket, key) =
      objects w.remote (bucket, key) := by
  have hne : ∀ id, (bucket, key) ≠ (c.bucket, audioKey id) := fun id heq =>
    hkey id (Prod.ext_iff.1 heq).2
  cases call with
  | upload id file =>
      cases file with
      | none =>
          have hkept := (hlaw.uploadFile_missing c.bucket (audioKey id)
            (if c.sse = [] then none else some c.sse) w.remote).2
          simp only [StorageClient.perform, StorageClient.uploadForCall, uploadAudio, remotely,
            snd_answering, snd_bind_pure, snd_raiseFrom, hkept]
      | some recording =>
          have hframe := (hlaw.uploadFile recording c.bucket (audioKey id)
            (if c.sse = [] then none else some c.sse) w.remote).frame (hne id)
          simpa only [StorageClient.perform, StorageClient.uploadForCall, uploadAudio, remotely,
            snd_answering, snd_bind_pure, snd_raiseFrom] using hframe
  | delete id =>
      have hframe := (hlaw.deleteObject c.bucket (audioKey id) w.remote).frame (hne id)
      simpa only [StorageClient.perform, StorageClient.deleteForCall, deleteAudio, remotely,
        snd_answering, snd_raiseFrom] using hframe
  | presign id ttl =>
      have hkept := hlaw.generatePresignedUrl c.bucket (audioKey id)
        (ttl.getD cfg.s3PresignTtlSeconds) w.remote
      simp only [StorageClient.perform, StorageClient.presignedUrlForCall, presignedUrl, remotely,
        snd_answering, snd_raiseFrom, hkept]
  | source id ttl =>
      simp only [StorageClient.perform, StorageClient.transcribableSourceForCall, remotely,
        snd_answering, objects_source hlaw]

/-! ## Runs -/

namespace BucketConfig

variable [DecidableEq ι] {cfg : BucketConfig σ ι} {honoured : Text → Option Text}

/-- What a step leaves of the phases of the other processes, and of the sentinel of one whose PID is its
own. -/
theorem step_frame (hlaw : cfg.client.Lawful cfg.objects honoured) {s t : BucketState σ ι}
    {e : BucketEvent ι} (h : cfg.step s e = some t) {i : ι} (hpid : ∀ j, cfg.pid j = cfg.pid i → j = i)
    (hother : e ≠ .probe i) :
    t.phase i = s.phase i ∧
      cfg.objects t.world.remote (cfg.bucket, probeKey (cfg.pid i)) =
        cfg.objects s.world.remote (cfg.bucket, probeKey (cfg.pid i)) ∧
      ∀ k ∈ s.outages, k ∈ t.outages := by
  have houtages : ∀ (j : ι) (raised : Bool), ∀ k ∈ s.outages,
      k ∈ if raised then j :: s.outages else s.outages := by
    intro j raised k hk
    split_ifs
    · exact List.mem_cons_of_mem j hk
    · exact hk
  cases e with
  | call j call =>
      simp only [step] at h
      split at h
      · obtain rfl := Option.some.inj h
        refine ⟨rfl, ?_, fun k hk => hk⟩
        exact (cfg.adapter j).objects_perform hlaw call s.world fun id heq =>
          audioKey_ne_probeKey id (cfg.pid i) heq.symm
      · cases h
  | probe j =>
      have hne : i ≠ j := fun heq => hother (by rw [heq])
      have hkey : (cfg.bucket, probeKey (cfg.pid i)) ≠ (cfg.bucket, probeKey (cfg.pid j)) :=
        probeKey_ne (fun heq => hne (hpid j heq.symm).symm) cfg.bucket
      simp only [step] at h
      split at h
      · split_ifs at h
        · obtain rfl := Option.some.inj h
          exact ⟨Function.update_of_ne hne _ _,
            (effect_probeWrite hlaw j s.world.remote).frame hkey, houtages j _⟩
        · obtain rfl := Option.some.inj h
          exact ⟨Function.update_of_ne hne _ _, rfl, fun k hk => hk⟩
      · obtain rfl := Option.some.inj h
        exact ⟨Function.update_of_ne hne _ _, congrFun (objects_probeRead hlaw j s.world.remote) _,
          houtages j _⟩
      · obtain rfl := Option.some.inj h
        obtain ⟨_, heffect⟩ := effect_probeCleanup hlaw j s.world.remote
        exact ⟨Function.update_of_ne hne _ _, heffect.frame hkey, houtages j _⟩
      · cases h
      · cases h

theorem phaseHolds_probe (hlaw : cfg.client.Lawful cfg.objects honoured) {s t : BucketState σ ι} {i : ι}
    (hs : cfg.PhaseHolds honoured s i (s.phase i)) (h : cfg.step s (.probe i) = some t) :
    cfg.PhaseHolds honoured t i (t.phase i) := by
  simp only [step] at h
  split at h
  · split_ifs at h with hsse
    · obtain rfl := Option.some.inj h
      have heffect := effect_probeWrite hlaw i s.world.remote
      rcases hwrite : (cfg.adapter i).probeWrite cfg.client (cfg.pid i) s.world.remote with ⟨e | _, u⟩
      · simp [proceed, verdict, PhaseHolds, Except.isOk, Except.toBool]
      · rw [hwrite] at heffect
        simp only [proceed, verdict, Function.update_self, PhaseHolds]
        refine ⟨hsse, ?_⟩
        rw [StoreEffect.of_acknowledged heffect]
        simp [Request.apply, Request.key, Request.value]
    · obtain rfl := Option.some.inj h
      simp [PhaseHolds, hsse]
  · rename_i hphase
    rw [hphase] at hs
    obtain ⟨hsse, hobject⟩ := hs
    obtain rfl := Option.some.inj h
    have hphase' : ∀ raised answer, (proceed s i .checked raised answer).phase i =
        verdict .checked answer.1 := fun _ _ => Function.update_self _ _ _
    rw [hphase']
    rcases hhead : cfg.client.headObject cfg.bucket (probeKey (cfg.pid i)) s.world.remote with ⟨e | head, u⟩
    · have hraised : ((cfg.adapter i).probeRead cfg.isPrintable cfg.client (cfg.pid i)
          s.world.remote).1.isOk = false := isOk_probeRead_of_error hhead
      rcases hread : ((cfg.adapter i).probeRead cfg.isPrintable cfg.client (cfg.pid i) s.world.remote).1 with
        e' | _
      · refine .inr (.inr ?_)
        simp [proceed, hobject, Except.isOk, Except.toBool]
      · rw [hread] at hraised
        cases hraised
    · obtain ⟨object, hobject', hecho, -⟩ := hlaw.headObject_ok hhead
      obtain rfl : object = ⟨probeBody, honoured (cfg.sse i)⟩ :=
        Option.some.inj (hobject'.symm.trans hobject)
      have hread : ((cfg.adapter i).probeRead cfg.isPrintable cfg.client (cfg.pid i) s.world.remote).1 =
          if honoured (cfg.sse i) = some (cfg.sse i) then .ok ()
          else .error ((cfg.adapter i).notHonoured cfg.isPrintable (honoured (cfg.sse i))) := by
        rw [probeRead_of_head (c := cfg.adapter i) hhead, hecho]
        rfl
      rw [hread]
      by_cases hhonoured : honoured (cfg.sse i) = some (cfg.sse i)
      · rw [if_pos hhonoured]
        exact ⟨hsse, hhonoured⟩
      · rw [if_neg hhonoured]
        exact .inr (.inl ⟨hsse, hhonoured, rfl⟩)
  · rename_i hphase
    rw [hphase] at hs
    obtain rfl := Option.some.inj h
    rcases hcleanup : (cfg.adapter i).probeCleanup cfg.client (cfg.pid i) s.world.remote with ⟨e | _, u⟩
    · simp [proceed, verdict, PhaseHolds, Except.isOk, Except.toBool]
    · simpa only [proceed, verdict, Function.update_self, PhaseHolds] using hs
  · cases h
  · cases h

theorem phaseHolds_step (hlaw : cfg.client.Lawful cfg.objects honoured) {s t : BucketState σ ι}
    {e : BucketEvent ι} (h : cfg.step s e = some t) {i : ι} (hpid : ∀ j, cfg.pid j = cfg.pid i → j = i)
    (hs : cfg.PhaseHolds honoured s i (s.phase i)) : cfg.PhaseHolds honoured t i (t.phase i) := by
  by_cases hown : e = .probe i
  · subst hown
    exact phaseHolds_probe hlaw hs h
  · obtain ⟨hphase, hobject, houtages⟩ := step_frame hlaw h hpid hown
    rw [hphase]
    exact phaseHolds_of_kept hs hobject houtages

/-- Whatever the processes on a bucket do, in any order: a process that shares its PID with no other has
an algorithm that the provider honours when it has started, and had reason to refuse when it did not, or
a request of its own failed. It does not misread a healthy bucket because of another process. -/
theorem verdict_of_run (hlaw : cfg.client.Lawful cfg.objects honoured) {s : BucketState σ ι}
    (hs : cfg.system.Reachable s) (i : ι) (hpid : ∀ j, cfg.pid j = cfg.pid i → j = i) :
    (s.phase i = .accepted →
      cfg.sse i ∈ sseAlgorithms ∧ honoured (cfg.sse i) = some (cfg.sse i)) ∧
    ∀ e, s.phase i = .refused e → i ∉ s.outages →
      (cfg.sse i ∉ sseAlgorithms ∧ e = (cfg.adapter i).unknownSse cfg.isPrintable) ∨
      (cfg.sse i ∈ sseAlgorithms ∧ honoured (cfg.sse i) ≠ some (cfg.sse i) ∧
        e = (cfg.adapter i).notHonoured cfg.isPrintable (honoured (cfg.sse i))) := by
  have hholds : cfg.PhaseHolds honoured s i (s.phase i) :=
    cfg.system.reachable_invariant (P := fun s => cfg.PhaseHolds honoured s i (s.phase i))
      (fun s hinit => by rw [hinit.1 i]; trivial)
      (fun s e t hs h => phaseHolds_step hlaw h hpid hs) hs
  refine ⟨fun hphase => ?_, fun e hphase houtage => ?_⟩
  · rwa [hphase] at hholds
  · rw [hphase] at hholds
    rcases hholds with hunknown | hecho | hout
    · exact .inl hunknown
    · exact .inr hecho
    · exact absurd hout houtage

/-- What is left of `startup_sse_probe` in a phase. -/
def remaining (cfg : BucketConfig σ ι) (i : ι) : ProbePhase → Effectful ObjectStorageError σ Unit
  | .starting => (cfg.adapter i).startupSseProbe cfg.isPrintable cfg.client (cfg.pid i)
  | .written => do
      (cfg.adapter i).probeRead cfg.isPrintable cfg.client (cfg.pid i)
      (cfg.adapter i).probeCleanup cfg.client (cfg.pid i)
  | .checked => (cfg.adapter i).probeCleanup cfg.client (cfg.pid i)
  | .accepted => pure ()
  | .refused e => Effectful.raise e

omit [DecidableEq ι] in
theorem bind_eq_remaining (i : ι) (x : Effectful ObjectStorageError σ Unit) (next : ProbePhase) (u : σ) :
    (x >>= fun _ => cfg.remaining i next) u =
      cfg.remaining i (verdict next (x u).1) (x u).2 := by
  rcases hx : x u with ⟨e | _, v⟩
  · rw [Effectful.bind_of_error hx]
    rfl
  · rw [Effectful.bind_of_ok hx]
    rfl

theorem remaining_step {s t : BucketState σ ι} {i : ι} (h : cfg.step s (.probe i) = some t) :
    cfg.remaining i (s.phase i) s.world.remote = cfg.remaining i (t.phase i) t.world.remote := by
  have hproceed : ∀ next raised (answer : Except ObjectStorageError Unit × σ),
      (proceed s i next raised answer).phase i = verdict next answer.1 := fun _ _ _ =>
    Function.update_self _ _ _
  simp only [step] at h
  split at h
  · rename_i hphase
    rw [hphase]
    have hprobe : cfg.remaining i .starting s.world.remote =
        if cfg.sse i ∈ sseAlgorithms then
          ((cfg.adapter i).probeWrite cfg.client (cfg.pid i) >>= fun _ => cfg.remaining i .written)
            s.world.remote
        else (.error ((cfg.adapter i).unknownSse cfg.isPrintable), s.world.remote) := by
      unfold remaining S3ObjectStorageClient.startupSseProbe
      by_cases hsse : (cfg.adapter i).sse ∈ sseAlgorithms
      · rw [if_neg (not_not.2 hsse), if_pos (show cfg.sse i ∈ sseAlgorithms from hsse)]
      · rw [if_pos hsse, if_neg (show cfg.sse i ∉ sseAlgorithms from hsse)]
        rfl
    rw [hprobe]
    split_ifs at h ⊢
    · obtain rfl := Option.some.inj h
      rw [bind_eq_remaining, hproceed]
      rfl
    · obtain rfl := Option.some.inj h
      dsimp only
      rw [Function.update_self]
      rfl
  · rename_i hphase
    obtain rfl := Option.some.inj h
    rw [hphase, hproceed]
    exact bind_eq_remaining i ((cfg.adapter i).probeRead cfg.isPrintable cfg.client (cfg.pid i)) .checked _
  · rename_i hphase
    obtain rfl := Option.some.inj h
    rw [hphase, hproceed]
    have hlast : ∀ answer : Except ObjectStorageError Unit × σ,
        answer = cfg.remaining i (verdict .accepted answer.1) answer.2 := by
      rintro ⟨_ | _, u⟩ <;> rfl
    exact hlast _
  · cases h
  · cases h

/-- The steps of one probe with nothing in between are `startup_sse_probe`. -/
theorem startupSseProbe_of_run {s t : BucketState σ ι} {i : ι} {n : ℕ} (hs : s.phase i = .starting)
    (hrun : cfg.system.run s (List.replicate n (.probe i)) = some t) :
    (cfg.adapter i).startupSseProbe cfg.isPrintable cfg.client (cfg.pid i) s.world.remote =
      cfg.remaining i (t.phase i) t.world.remote := by
  have hstart : (cfg.adapter i).startupSseProbe cfg.isPrintable cfg.client (cfg.pid i) s.world.remote =
      cfg.remaining i (s.phase i) s.world.remote := by
    rw [hs]
    rfl
  rw [hstart]
  clear hstart hs
  induction n generalizing s with
  | zero =>
      obtain rfl : s = t := Option.some.inj hrun
      rfl
  | succ n ih =>
      obtain ⟨u, hu, hrest⟩ := cfg.system.run_cons_eq_some.1 hrun
      exact (remaining_step hu).trans (ih hrest)

/-- The recordings in the bucket that the processes share. -/
def recordings (cfg : BucketConfig σ ι) (s : BucketState σ ι) : Uuid → Option Bytes :=
  view (fun id => (cfg.bucket, audioKey id)) S3Object.body (cfg.objects s.world.remote)

/-- The log explains the recordings: they are what its requests leave possible, and every source in it
describes a recording that the requests before leave possible, under the key of its call. -/
structure Explained (cfg : BucketConfig σ ι) (start : Uuid → Option Bytes) (s : BucketState σ ι) : Prop where
  recordings (id : Uuid) : cfg.recordings s id ∈
    possible (fun _ => ∅) id {start id} (requests s.log)
  sources {before after : List (StorageCall × Except ObjectStorageError StorageAnswer)} {id : Uuid}
    {ttl : Option ℤ} {source : AudioSource}
    (hlog : s.log = before ++ (.source id ttl, .ok (.source source)) :: after) :
    ∃ recording, some recording ∈ possible (fun _ => ∅) id {start id} (requests before) ∧
      source.sizeBytes = recording.length ∧
      ∃ i, (StorageClient.s3 (cfg.adapter i)).Locates cfg.client id
        (ttl.getD cfg.settings.s3PresignTtlSeconds) source.location

theorem recordings_probe (hlaw : cfg.client.Lawful cfg.objects honoured) {s t : BucketState σ ι} {i : ι}
    (h : cfg.step s (.probe i) = some t) : cfg.recordings t = cfg.recordings s ∧ t.log = s.log := by
  simp only [step] at h
  split at h
  · split_ifs at h
    · obtain rfl := Option.some.inj h
      exact ⟨keeps_probeWrite (cfg.pid i) _ cfg.bucket _ hlaw s.world.remote rfl, rfl⟩
    · obtain rfl := Option.some.inj h
      exact ⟨rfl, rfl⟩
  · obtain rfl := Option.some.inj h
    exact ⟨keeps_probeRead cfg.isPrintable (cfg.pid i) _ cfg.bucket _ hlaw s.world.remote rfl, rfl⟩
  · obtain rfl := Option.some.inj h
    exact ⟨keeps_probeCleanup (cfg.pid i) _ cfg.bucket _ hlaw s.world.remote rfl, rfl⟩
  · cases h
  · cases h

theorem requests_concat (log : List (StorageCall × Except ObjectStorageError StorageAnswer))
    (call : StorageCall) (answer : Except ObjectStorageError StorageAnswer) :
    requests (log ++ [(call, answer)]) =
      requests log ++ (call.request.map fun q => (q, answer.isOk)).toList := by
  unfold requests
  rw [List.filterMap_append]
  cases h : call.request <;> simp [h]

theorem perform_source {client : S3Client σ} {settings : StorageSettings} {c : StorageClient} {id : Uuid}
    {ttl : Option ℤ} {source : AudioSource} {w : StorageWorld σ}
    (h : (c.perform client settings (.source id ttl) w).1 = .ok (.source source)) :
    ∃ w', c.transcribableSourceForCall client settings id ttl w = (.ok source, w') := by
  change (c.transcribableSourceForCall client settings id ttl w).1.map StorageAnswer.source = _ at h
  rcases hanswer : c.transcribableSourceForCall client settings id ttl w with ⟨e | source', w'⟩
  · rw [hanswer] at h
    cases h
  · rw [hanswer] at h
    cases h
    exact ⟨w', rfl⟩

theorem explained_call (hlaw : cfg.client.Lawful cfg.objects honoured) {start : Uuid → Option Bytes}
    {s t : BucketState σ ι} {i : ι} {call : StorageCall} (hs : cfg.Explained start s)
    (h : cfg.step s (.call i call) = some t) : cfg.Explained start t := by
  simp only [step] at h
  split at h
  · obtain ⟨c, hc⟩ : ∃ c, c = StorageClient.s3 (cfg.adapter i) := ⟨_, rfl⟩
    have hview : ∀ u : BucketState σ ι, cfg.recordings u = c.recordings cfg.objects u.world := by
      rw [hc]
      exact fun u => rfl
    have hresidue : c.residue = fun _ => ∅ := by
      rw [hc]
      rfl
    rw [← hc] at h
    obtain rfl := Option.some.inj h
    constructor
    · intro id
      have hid := hs.recordings id
      rw [hview] at hid ⊢
      dsimp only
      rw [requests_concat]
      cases hcall : call.request with
      | none =>
          rw [StorageClient.recordings_perform hlaw cfg.settings c hcall, Option.map_none,
            Option.toList_none, List.append_nil]
          exact hid
      | some q =>
          have heffect := StorageClient.effect_perform hlaw cfg.settings c hcall s.world
          rw [hresidue] at heffect
          have hmem := mem_settle heffect hid
          simpa only [possible, Option.map_some, Option.toList_some, List.foldl_append, List.foldl_cons,
            List.foldl_nil] using hmem
    · intro before after id ttl source hlog
      rcases List.eq_nil_or_concat after with rfl | ⟨after', last, rfl⟩
      · obtain ⟨hbefore, hentry⟩ := List.append_inj' hlog rfl
        obtain ⟨hcall, hanswer⟩ := Prod.ext_iff.1 (List.cons.inj hentry).1
        dsimp only at hcall hanswer
        subst hcall
        obtain ⟨w', hsource⟩ := perform_source hanswer
        obtain ⟨recording, hrecording, hsize, hlocation⟩ := c.source_ok hlaw hsource
        refine ⟨recording, ?_, hsize, i, hc ▸ hlocation⟩
        have hid := hs.recordings id
        rw [hview, hrecording, hbefore] at hid
        exact hid
      · rw [List.concat_eq_append, ← List.cons_append, ← List.append_assoc] at hlog
        exact hs.sources (List.append_inj' hlog rfl).1
  · cases h

theorem explained_step (hlaw : cfg.client.Lawful cfg.objects honoured) {start : Uuid → Option Bytes}
    {s t : BucketState σ ι} {e : BucketEvent ι} (hs : cfg.Explained start s) (h : cfg.step s e = some t) :
    cfg.Explained start t := by
  cases e with
  | call i call => exact explained_call hlaw hs h
  | probe i =>
      obtain ⟨hrecordings, hlog⟩ := recordings_probe hlaw h
      constructor
      · intro id
        rw [hrecordings, hlog]
        exact hs.recordings id
      · intro before after id ttl source heq
        exact hs.sources (hlog ▸ heq)

/-- Whatever the processes do, in any order and with any failures, the log of their operations explains
the recordings and every audio source that one of them was given. -/
theorem explained_of_run (hlaw : cfg.client.Lawful cfg.objects honoured) {s t : BucketState σ ι}
    {es : List (BucketEvent ι)} (hs : cfg.system.init s) (hrun : cfg.system.run s es = some t) :
    cfg.Explained (cfg.recordings s) t := by
  refine cfg.system.run_invariant (P := cfg.Explained (cfg.recordings s))
    (fun u e v hu h => explained_step hlaw hu h) ⟨fun id => ?_, fun hlog => ?_⟩ hrun
  · rw [hs.2.2]
    rfl
  · rw [hs.2.2] at hlog
    simp at hlog

end BucketConfig

/-! ## A run of two processes -/

/-- Process 3 wants an algorithm that S3 does not have. -/
def sampleBucket : BucketConfig (Text × Text → Option S3Object) ℕ where
  client := memoryClient
  objects := fun s => s
  isPrintable := fun _ => true
  settings := sampleStorage
  bucket := "audio"
  pid i := i
  sse i := if i = 3 then "rot13" else "AES256"

def startingBucket : BucketState (Text × Text → Option S3Object) ℕ :=
  ⟨emptyStorage, fun _ => .starting, [], []⟩

/-- Two probes interleave with a refusal, and the second process reads what the first has stored. -/
def sharedBucket : List (BucketEvent ℕ) :=
  [.probe 1, .probe 2, .probe 3, .probe 2, .probe 1, .probe 1, .call 1 (.upload 7 (some [1, 2, 3])),
    .probe 2, .call 2 (.source 7 none)]

theorem sharedBucket_isSome : (sampleBucket.system.run startingBucket sharedBucket).isSome := by
  decide +kernel

def sharedBucketState : BucketState (Text × Text → Option S3Object) ℕ :=
  (sampleBucket.system.run startingBucket sharedBucket).get sharedBucket_isSome

theorem sharedBucket_run :
    sampleBucket.system.run startingBucket sharedBucket = some sharedBucketState :=
  (Option.some_get sharedBucket_isSome).symm

theorem startingBucket_init : sampleBucket.system.init startingBucket := ⟨fun _ => rfl, rfl, rfl⟩

namespace BucketConfig

theorem verdict_of_run_sharedBucket :
    sampleBucket.sse 2 ∈ sseAlgorithms ∧ sampleBucket.sse 3 ∉ sseAlgorithms := by
  have hreachable : sampleBucket.system.Reachable sharedBucketState :=
    ⟨startingBucket, sharedBucket, startingBucket_init, sharedBucket_run⟩
  have haccepted : sharedBucketState.phase 2 = .accepted := rfl
  have hrefused : sharedBucketState.phase 3 =
      .refused ((sampleBucket.adapter 3).unknownSse sampleBucket.isPrintable) := rfl
  refine ⟨((verdict_of_run memoryClient_lawful hreachable 2 fun _ h => h).1 haccepted).1, ?_⟩
  have hout : 3 ∉ sharedBucketState.outages := by decide +kernel
  rcases (verdict_of_run memoryClient_lawful hreachable 3 fun _ h => h).2 _ hrefused hout with
    ⟨hunknown, -⟩ | ⟨-, -, hnot⟩
  · exact hunknown
  · cases hnot

theorem explained_of_run_sharedBucket :
    sampleBucket.Explained (fun _ => none) sharedBucketState :=
  explained_of_run (s := startingBucket) memoryClient_lawful startingBucket_init sharedBucket_run

end BucketConfig

/-! ## Two containers -/

/-- The runners of two containers, each with PID 1. -/
def twinBucket : BucketConfig (Text × Text → Option S3Object) Bool where
  client := memoryClient
  objects := fun s => s
  isPrintable := fun _ => true
  settings := sampleStorage
  bucket := "audio"
  pid _ := 1
  sse kms := if kms then "aws:kms" else "AES256"

def twinStart : BucketState (Text × Text → Option S3Object) Bool :=
  ⟨emptyStorage, fun _ => .starting, [], []⟩

/-- Both write the sentinel, and then the first one reads it. -/
def twinProbes : List (BucketEvent Bool) := [.probe false, .probe true, .probe false]

theorem twinProbes_isSome : (twinBucket.system.run twinStart twinProbes).isSome := by decide +kernel

def twinState : BucketState (Text × Text → Option S3Object) Bool :=
  (twinBucket.system.run twinStart twinProbes).get twinProbes_isSome

/-- The first process refuses a bucket that honours its algorithm, and none of its requests has failed. -/
theorem misread_of_samePid :
    twinBucket.system.Reachable twinState ∧
      twinState.phase false = .refused
        ((twinBucket.adapter false).notHonoured twinBucket.isPrintable (some "aws:kms".toList)) ∧
      false ∉ twinState.outages ∧ twinBucket.sse false ∈ sseAlgorithms := by
  have hrun : twinBucket.system.run twinStart twinProbes = some twinState :=
    (Option.some_get twinProbes_isSome).symm
  exact ⟨⟨twinStart, twinProbes, ⟨fun _ => rfl, rfl, rfl⟩, hrun⟩, rfl, by decide +kernel,
    by decide +kernel⟩

end Notetaker.ObjectStorage
