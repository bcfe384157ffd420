import SlotBroker.Proofs.Assoc
import SlotBroker.Registry.Step

/-!
# The calls and lines of a registry

Two views of a registry: where a call stands (`stage?`), and who stands in the line of a location
(`line`). Every change of a registry is made of four moves of one call, into a line, out of a line,
to another stage and to its end, and of changes of fields that no view here looks at. Each move has
its equation for each view.
-/

namespace SlotBroker

namespace Registry

/-- Where a call stands, if it is in progress. -/
def stage? (id : CallId) (r : Registry) : Option Stage := Assoc.get? id r.calls

/-- Those who stand in the line of a location. -/
def line (l : Location) (r : Registry) : List CallId := (Assoc.get? l r.lines).getD []

theorem holder?_eq (l : Location) (r : Registry) : r.holder? l = (r.line l).head? := by
  unfold holder? line
  cases Assoc.get? l r.lines <;> rfl

variable (id id' : CallId) (l l' : Location) (s : Stage) (r : Registry)

/-! ## Standing in a line -/

@[simp] theorem line_standAt :
    (r.standAt l id).line l' = if l = l' then r.line l' ++ [id] else r.line l' := by
  unfold line standAt
  rw [Assoc.get?_put]
  split
  · rename_i h
    rw [h]
    rfl
  · rfl

@[simp] theorem stage?_standAt : (r.standAt l id).stage? id' = r.stage? id' := rfl

@[simp] theorem standAt_frame :
    (r.standAt l id).sessions = r.sessions ∧ (r.standAt l id).policy = r.policy ∧
      (r.standAt l id).resolutions = r.resolutions ∧ (r.standAt l id).listed = r.listed ∧
      (r.standAt l id).nextOid = r.nextOid ∧ (r.standAt l id).closed = r.closed ∧
      (r.standAt l id).backends = r.backends ∧ (r.standAt l id).nextCall = r.nextCall :=
  ⟨rfl, rfl, rfl, rfl, rfl, rfl, rfl, rfl⟩

/-! ## Leaving a line -/

@[simp] theorem line_leaveLine :
    (r.leaveLine l id).line l' = if l = l' then (r.line l').erase id else r.line l' := by
  unfold line leaveLine
  rw [Assoc.get?_modify]
  split
  · cases Assoc.get? l' r.lines <;> rfl
  · rfl

@[simp] theorem stage?_leaveLine : (r.leaveLine l id).stage? id' = r.stage? id' := rfl

@[simp] theorem leaveLine_frame :
    (r.leaveLine l id).sessions = r.sessions ∧ (r.leaveLine l id).policy = r.policy ∧
      (r.leaveLine l id).resolutions = r.resolutions ∧ (r.leaveLine l id).listed = r.listed ∧
      (r.leaveLine l id).nextOid = r.nextOid ∧ (r.leaveLine l id).closed = r.closed ∧
      (r.leaveLine l id).backends = r.backends ∧ (r.leaveLine l id).nextCall = r.nextCall :=
  ⟨rfl, rfl, rfl, rfl, rfl, rfl, rfl, rfl⟩

/-! ## Going to another stage -/

@[simp] theorem stage?_setStage :
    (r.setStage id s).stage? id' = if id = id' then some s else r.stage? id' :=
  Assoc.get?_put id' id s r.calls

theorem stage?_setStage_self : (r.setStage id s).stage? id = some s := by simp

@[simp] theorem line_setStage : (r.setStage id s).line l = r.line l := rfl

@[simp] theorem setStage_frame :
    (r.setStage id s).sessions = r.sessions ∧ (r.setStage id s).policy = r.policy ∧
      (r.setStage id s).resolutions = r.resolutions ∧ (r.setStage id s).listed = r.listed ∧
      (r.setStage id s).nextOid = r.nextOid ∧ (r.setStage id s).closed = r.closed ∧
      (r.setStage id s).backends = r.backends ∧ (r.setStage id s).nextCall = r.nextCall :=
  ⟨rfl, rfl, rfl, rfl, rfl, rfl, rfl, rfl⟩

/-! ## Ending -/

@[simp] theorem stage?_endCall :
    (r.endCall id).stage? id' = if id = id' then none else r.stage? id' :=
  Assoc.get?_erase id' id r.calls

@[simp] theorem line_endCall : (r.endCall id).line l = r.line l := rfl

@[simp] theorem endCall_frame :
    (r.endCall id).sessions = r.sessions ∧ (r.endCall id).policy = r.policy ∧
      (r.endCall id).resolutions = r.resolutions ∧ (r.endCall id).listed = r.listed ∧
      (r.endCall id).nextOid = r.nextOid ∧ (r.endCall id).closed = r.closed ∧
      (r.endCall id).backends = r.backends ∧ (r.endCall id).nextCall = r.nextCall :=
  ⟨rfl, rfl, rfl, rfl, rfl, rfl, rfl, rfl⟩

/-! ## Changes that neither view looks at -/

@[simp] theorem stage?_with (a p ss m li ls n c b nc o) :
    (Registry.mk a p ss m li ls n c b r.calls nc o).stage? id = r.stage? id := rfl

@[simp] theorem line_with (a p ss m ls n c b cs nc o) :
    (Registry.mk a p ss m r.lines ls n c b cs nc o).line l = r.line l := rfl

@[simp] theorem stage?_addSession (x : LiveSession) :
    (r.addSession x).stage? id = r.stage? id := rfl

@[simp] theorem line_addSession (x : LiveSession) : (r.addSession x).line l = r.line l := rfl

@[simp] theorem addSession_frame (x : LiveSession) :
    (r.addSession x).sessions = insertSession x r.sessions ∧ (r.addSession x).policy = r.policy ∧
      (r.addSession x).resolutions = r.resolutions ∧ (r.addSession x).listed = r.listed ∧
      (r.addSession x).nextOid = r.nextOid ∧ (r.addSession x).closed = r.closed ∧
      (r.addSession x).backends = r.backends ∧ (r.addSession x).nextCall = r.nextCall :=
  ⟨rfl, rfl, rfl, rfl, rfl, rfl, rfl, rfl⟩

@[simp] theorem stage?_eraseSession (oid : Oid) :
    (r.eraseSession oid).stage? id = r.stage? id := rfl

@[simp] theorem line_eraseSession (oid : Oid) : (r.eraseSession oid).line l = r.line l := rfl

@[simp] theorem eraseSession_frame (oid : Oid) :
    (r.eraseSession oid).sessions = r.sessions.filter (fun s => !(s.info.oid == oid)) ∧
      (r.eraseSession oid).policy = r.policy ∧
      (r.eraseSession oid).resolutions = r.resolutions ∧
      (r.eraseSession oid).listed = r.listed ∧ (r.eraseSession oid).nextOid = r.nextOid ∧
      (r.eraseSession oid).closed = r.closed ∧ (r.eraseSession oid).backends = r.backends ∧
      (r.eraseSession oid).nextCall = r.nextCall :=
  ⟨rfl, rfl, rfl, rfl, rfl, rfl, rfl, rfl⟩

@[simp] theorem stage?_enroll :
    (r.enroll s).stage? id = if r.nextCall = id then some s else r.stage? id :=
  stage?_setStage _ _ _ _

@[simp] theorem line_enroll : (r.enroll s).line l = r.line l := rfl

@[simp] theorem enroll_frame :
    (r.enroll s).sessions = r.sessions ∧ (r.enroll s).policy = r.policy ∧
      (r.enroll s).resolutions = r.resolutions ∧ (r.enroll s).listed = r.listed ∧
      (r.enroll s).nextOid = r.nextOid ∧ (r.enroll s).closed = r.closed ∧
      (r.enroll s).backends = r.backends ∧ (r.enroll s).nextCall = r.nextCall + 1 :=
  ⟨rfl, rfl, rfl, rfl, rfl, rfl, rfl, rfl⟩

@[simp] theorem stage?_resetDiscovery : r.resetDiscovery.stage? id = r.stage? id := rfl

@[simp] theorem line_resetDiscovery : r.resetDiscovery.line l = r.line l := rfl

@[simp] theorem resetDiscovery_frame :
    r.resetDiscovery.sessions = r.sessions ∧ r.resetDiscovery.policy = r.policy ∧
      r.resetDiscovery.resolutions = r.resolutions.clear ∧ r.resetDiscovery.listed = none ∧
      r.resetDiscovery.nextOid = r.nextOid ∧ r.resetDiscovery.closed = r.closed ∧
      r.resetDiscovery.backends = r.backends ∧ r.resetDiscovery.nextCall = r.nextCall :=
  ⟨rfl, rfl, rfl, rfl, rfl, rfl, rfl, rfl⟩

/-- All that a shutdown forgets when it comes to the backends. -/
def emptied : Registry :=
  { r with
    sessions := []
    resolutions := r.resolutions.clear
    listed := none
    backends := r.backends.takeAll.1 }

@[simp] theorem stage?_emptied : r.emptied.stage? id = r.stage? id := rfl

@[simp] theorem line_emptied : r.emptied.line l = r.line l := rfl

@[simp] theorem emptied_frame :
    r.emptied.sessions = [] ∧ r.emptied.policy = r.policy ∧
      r.emptied.resolutions = r.resolutions.clear ∧ r.emptied.listed = none ∧
      r.emptied.nextOid = r.nextOid ∧ r.emptied.closed = r.closed ∧
      r.emptied.backends = r.backends.takeAll.1 ∧ r.emptied.nextCall = r.nextCall :=
  ⟨rfl, rfl, rfl, rfl, rfl, rfl, rfl, rfl⟩

end Registry

end SlotBroker
