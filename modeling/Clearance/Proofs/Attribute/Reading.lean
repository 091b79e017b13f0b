/-
# What a map was read from

The stored part of a map is found in the cache, or it is what the store has answered to the look-ups of
the request. The transcript of a request tells which: what it came to and what it left in the cache can
be traced back to exchanges that it had.
-/

import Clearance.Proofs.Attribute.Gathering
import Clearance.Proofs.Process.Transcript
import Clearance.Service.Traffic

namespace Clearance

open Attempt

namespace Gathering

/-- The store has given the answers that look-ups consist of, among other exchanges. -/
structure IsReadIn (xs : List Exchange) (q : Inquiry) (now : Time.Moment) (l : Lookups) : Prop where
  subject : Exchange.answered (.subjectAttributes q.subject) l.subject ∈ xs
  role : Exchange.answered (.roleAttributes q.subject) l.role ∈ xs
  resource : ∀ r, given? q.resource = some r →
    Exchange.answered (.resourceAttributes r) l.resource ∈ xs ∧
      Exchange.answered (.resourceOwner r) l.owner ∈ xs
  noResource : given? q.resource = none → l.resource = [] ∧ l.owner = none
  action : Exchange.answered (.actionAttributes q.action) l.action ∈ xs
  environment : Exchange.answered (.environmentAttributes now) l.environment ∈ xs

namespace IsReadIn

variable {xs ys : List Exchange} {q : Inquiry} {now : Time.Moment} {l : Lookups}

theorem mono (h : IsReadIn xs q now l) (hsub : xs ⊆ ys) : IsReadIn ys q now l where
  subject := hsub h.subject
  role := hsub h.role
  resource r hr := ⟨hsub (h.resource r hr).1, hsub (h.resource r hr).2⟩
  noResource := h.noResource
  action := hsub h.action
  environment := hsub h.environment

end IsReadIn

section Transcripts

variable {xs : List Exchange} {q : Inquiry} {now : Time.Moment} {l : Lookups} {m : AttributeMap}
  {roleOverrides : Bool} {r : Process (Except Fault AttributeMap)}

theorem isReadIn_of_reaches_lookUps
    (h : Reaches (lookUps q.subject q.action q.resource now) xs l) : IsReadIn xs q now l := by
  rw [lookUps_eq] at h
  obtain ⟨own, x₁, rest, rfl, hown, h⟩ := reaches_bind h
  obtain ⟨role, x₂, rest, rfl, hrole, h⟩ := reaches_bind h
  obtain ⟨found, x₃, rest, rfl, hfound, h⟩ := reaches_bind h
  obtain ⟨action, x₄, rest, rfl, haction, h⟩ := reaches_bind h
  obtain ⟨environment, x₅, rest, rfl, henvironment, h⟩ := reaches_bind h
  obtain ⟨rfl, rfl⟩ := reaches_pure h
  obtain rfl := reaches_call hown
  obtain rfl := reaches_call hrole
  obtain rfl := reaches_call haction
  obtain rfl := reaches_call henvironment
  simp only [resourceLookUps] at hfound
  refine ⟨by simp, by simp, fun r hr => ?_, fun hnone => ?_, by simp, by simp⟩
  · rw [hr] at hfound
    obtain ⟨attributes, y₁, rest, rfl, hattributes, hfound⟩ := reaches_bind hfound
    obtain ⟨owner, y₂, rest, rfl, howner, hfound⟩ := reaches_bind hfound
    obtain ⟨rfl, rfl⟩ := reaches_pure hfound
    obtain rfl := reaches_call hattributes
    obtain rfl := reaches_call howner
    exact ⟨by simp, by simp⟩
  · rw [hnone] at hfound
    obtain ⟨rfl, -⟩ := reaches_pure hfound
    exact ⟨rfl, rfl⟩

/-- A stored part that a request came to was found under its key, or looked up. -/
theorem found_or_read_of_reaches_stored
    (h : Reaches (stored roleOverrides q.subject q.action q.resource now) xs m) :
    ⟨.lookUp q.key, some m⟩ ∈ xs ∨
      ∃ l, IsReadIn xs q now l ∧ m = l.toMap roleOverrides q.subject q.action := by
  simp only [stored] at h
  obtain ⟨found, ys, zs, rfl, hfound, hrest⟩ := reaches_bind h
  obtain rfl := reaches_pose hfound
  cases found with
  | some m' =>
      obtain ⟨-, y₁, y₂, rfl, -, hrest⟩ := reaches_bind hrest
      obtain ⟨rfl, -⟩ := reaches_pure hrest
      exact .inl List.mem_cons_self
  | none =>
      obtain ⟨l, y₁, y₂, rfl, hlooked, hrest⟩ := reaches_bind hrest
      obtain ⟨-, y₂, y₃, rfl, -, hrest⟩ := reaches_bind hrest
      obtain ⟨rfl, -⟩ := reaches_pure hrest
      have hread := isReadIn_of_reaches_lookUps (reaches_framed hlooked)
      exact .inr ⟨l, hread.mono (by simp), rfl⟩

/-- What a request leaves in the cache, it leaves there under its key, and it was looked up. -/
theorem read_of_leaves_stored
    (h : (stored roleOverrides q.subject q.action q.resource now).run.Leaves xs r) {key : CacheKey}
    (hx : ⟨.remember key m, ()⟩ ∈ xs) :
    key = q.key ∧ ∃ l, IsReadIn xs q now l ∧ m = l.toMap roleOverrides q.subject q.action := by
  simp only [stored] at h
  rcases mem_of_leaves_bind h hx with ⟨_, _, -, hlook, hx⟩ | ⟨found, ys, zs, rfl, -, hrest, hx⟩
  · have hasks : Asks (fun q => !q.isKeeping) (Attempt.pose (.lookUp q.key)) := .pose rfl
    cases hasks.of_leaves hlook hx
  · cases found with
    | some m' =>
        have hasks : Asks (fun q => !q.isKeeping) (do
            Attempt.note (entry
              s!"Attribute map for {q.subject}/{orNone q.resource}/{q.action} served from cache")
            return m') := .bind (.pose rfl) fun _ => .pure m'
        cases hasks.of_leaves hrest hx
    | none =>
        rcases mem_of_leaves_bind hrest hx with
          ⟨_, _, -, hlooked, hx⟩ | ⟨l, vs, us, rfl, hlooked, hlast, hx⟩
        · cases (lookUps_asks.of_isPassive.1.framed _).of_leaves hlooked hx
        · have hread := isReadIn_of_reaches_lookUps (reaches_framed hlooked)
          cases hlast with
          | nil _ => cases hx
          | cons hlast =>
              rcases List.mem_cons.mp hx with heq | hx
              · cases heq
                exact ⟨rfl, l, hread.mono (by simp), rfl⟩
              · cases hlast with
                | nil _ => cases hx

/-- What a request came to has a stored part that was found under its key, or looked up. -/
theorem found_or_read_of_leaves_process
    (h : (q.process roleOverrides).Leaves xs (.done (.ok m))) :
    ∃ now stored, stored.forRequest now q.resourceType q.context = .ok m ∧
      (⟨.lookUp q.key, some stored⟩ ∈ xs ∨
        ∃ l, IsReadIn xs q now l ∧ stored = l.toMap roleOverrides q.subject q.action) := by
  obtain ⟨now, ys, zs, rfl, -, h⟩ := reaches_bind h
  obtain ⟨stored, vs, zs, rfl, hstored, h⟩ := reaches_bind h
  obtain ⟨whole, us, zs, rfl, hwhole, h⟩ := reaches_bind h
  obtain ⟨-, ws, zs, rfl, -, h⟩ := reaches_bind h
  obtain ⟨rfl, -⟩ := reaches_pure h
  obtain ⟨hwhole, -⟩ := reaches_ofExcept hwhole
  refine ⟨now, stored, hwhole, ?_⟩
  rcases found_or_read_of_reaches_stored hstored with hfound | ⟨l, hread, hl⟩
  · exact .inl (by simp [hfound])
  · exact .inr ⟨l, hread.mono (by simp), hl⟩

/-- What a request has left in the cache was looked up for it. -/
theorem read_of_leaves_process (h : (q.process roleOverrides).Leaves xs r) {key : CacheKey}
    (hx : ⟨.remember key m, ()⟩ ∈ xs) :
    key = q.key ∧
      ∃ now l, IsReadIn xs q now l ∧ m = l.toMap roleOverrides q.subject q.action := by
  rcases mem_of_leaves_bind h hx with ⟨_, _, -, htime, hx⟩ | ⟨now, ys, zs, rfl, -, hrest, hx⟩
  · have hasks : Asks (fun q => !q.isKeeping) (Attempt.pose .time) := .pose rfl
    cases hasks.of_leaves htime hx
  · rcases mem_of_leaves_bind hrest hx with
      ⟨_, vs, hinitial, hstored, hx⟩ | ⟨stored, vs, us, rfl, -, hlast, hx⟩
    · obtain ⟨hkey, l, hread, hl⟩ := read_of_leaves_stored hstored hx
      have hsub : vs ⊆ ys ++ zs := fun _ he => List.mem_append_right ys (hinitial.subset he)
      exact ⟨hkey, now, l, hread.mono hsub, hl⟩
    · have hasks : Asks (fun q => !q.isKeeping) (do
          let whole ← ExceptT.mk (Process.done (stored.forRequest now q.resourceType q.context))
          Attempt.note (entry s!"Gathered {whole.size} attributes for subject {q.subject}")
          return whole) := .bind (.ofExcept _) fun _ => .bind (.pose rfl) fun _ => .pure _
      cases hasks.of_leaves hlast hx

end Transcripts

end Gathering

end Clearance
