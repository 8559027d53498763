/-
**A run keeps step with the meaning of its program.**

From the first line of a structured program, with the loops around it on the stack, a run comes to
stand behind its last line in the state that the meaning gives, or fails in the line that the
meaning names. Where the meaning is left unfinished, the run has made at least as many steps as
passes were granted, and has shown the same.

* `exec_comes` — the simulation, by induction on the structure of the program and, for a loop, on
  the passes granted to it.
-/

import LineBasic.Proofs.Structured.Walk

namespace LineBasic.Structured

namespace Running

variable {run : Running}

/-- What a scene of a run comes to, where a part of its program has a meaning: it stands behind
the part, it has failed, or it has made a number of steps and goes on. -/
def Comes (run : Running) (steps : Nat) (loops : List LoopFrame) (place : Nat) (scene : Scene) :
    State × Result → Prop
  | (state, .done) => ∃ n current, scene.play n = run.before loops current place state
  | (state, .failed line cause) =>
    ∃ n loops place, scene.play n = run.failing loops line place cause state
  | (state, .unfinished) =>
    ∃ n, steps ≤ n ∧ (scene.play n).ending = none ∧ (scene.play n).events = state.events

variable {loops : List LoopFrame} {place : Nat} {steps : Nat}

/-- What a scene comes to, the scenes that lead to it come to. -/
theorem Comes.lead {scene next : Scene} {meaning : State × Result} {n : Nat}
    (leads : scene.play n = next) (comes : run.Comes steps loops place next meaning) :
    run.Comes (n + steps) loops place scene meaning := by
  subst leads
  obtain ⟨state, done | ⟨line, cause⟩ | unfinished⟩ := meaning
  · obtain ⟨m, current, arrived⟩ := comes
    exact ⟨n + m, current, Scene.play_trans rfl arrived⟩
  · obtain ⟨m, loops, place, failed⟩ := comes
    exact ⟨n + m, loops, place, Scene.play_trans rfl failed⟩
  · obtain ⟨m, long, goesOn, shown⟩ := comes
    refine ⟨n + m, by omega, ?_, ?_⟩
    · rw [Scene.play_add, goesOn]
    · rw [Scene.play_add, shown]

/-- What is said of many steps holds of fewer. -/
theorem Comes.fewer {scene : Scene} {meaning : State × Result} {fewer : Nat}
    (comes : run.Comes steps loops place scene meaning) (within : fewer ≤ steps) :
    run.Comes fewer loops place scene meaning := by
  obtain ⟨state, done | ⟨line, cause⟩ | unfinished⟩ := meaning
  · exact comes
  · exact comes
  · obtain ⟨n, long, goesOn, shown⟩ := comes
    exact ⟨n, Nat.le_trans within long, goesOn, shown⟩

/-- A loop comes to what its passes mean: the induction is on the passes granted. -/
theorem passes_comes {header : Header} {body : Blocks} {footer : Footer} {last stride : Float}
    {earlier later : List (Int × Entry)}
    (stored : run.program.lines =
      earlier ++ header.line :: (body.lines ++ footer.line header.name :: later))
    {granted : Nat}
    (bodyComes : ∀ current state,
      run.Comes granted (⟨header.name, last, stride, some header.number⟩ :: loops)
        (earlier.length + 1 + body.lines.length)
        (run.before (⟨header.name, last, stride, some header.number⟩ :: loops) current
          (earlier.length + 1) state)
        (body.exec run.program granted state))
    (passesLeft : Nat) (within : passesLeft ≤ granted) (current : Option Int) (state : State) :
    run.Comes passesLeft loops (earlier.length + 1 + body.lines.length + 1)
      (run.before (⟨header.name, last, stride, some header.number⟩ :: loops) current
        (earlier.length + 1) state)
      (passes (fun state => body.exec run.program granted state)
        (advance header.name last stride) footer.number passesLeft state) := by
  have closes : run.program.lines =
      (earlier ++ header.line :: body.lines) ++ footer.line header.name :: later := by
    rw [stored]
    simp
  have place : (earlier ++ header.line :: body.lines).length =
      earlier.length + 1 + body.lines.length := by
    simp
    omega
  induction passesLeft generalizing current state with
  | zero => exact ⟨0, Nat.le_refl _, rfl, rfl⟩
  | succ passesLeft hypothesis =>
    have pass := bodyComes current state
    rw [passes]
    rcases executed : body.exec run.program granted state with
      ⟨after, done | ⟨line, cause⟩ | unfinished⟩
    all_goals rw [executed] at pass
    · obtain ⟨n, current', arrived⟩ := pass
      have walked := walk_footer closes stored last stride loops current' after
      rw [place] at walked
      simp only at walked ⊢
      obtain ⟨m, walked⟩ := walked
      have reached := Scene.play_trans arrived walked
      generalize advance header.name last stride after.memory = advanced at reached ⊢
      rcases advanced with ⟨memory, cause | onward⟩
      · exact ⟨_, _, _, reached⟩
      · cases onward with
        | true =>
          exact ((hypothesis (by omega) _ _).lead reached).fewer (by omega)
        | false => exact ⟨_, _, reached⟩
    · exact pass
    · exact pass.fewer within

/-- **A run comes to what its program means.** -/
theorem exec_comes (run : Running) (blocks : Blocks) (granted : Nat) (loops : List LoopFrame)
    (earlier later : List (Int × Entry))
    (stored : run.program.lines = earlier ++ (blocks.lines ++ later))
    (nested : blocks.Nested (loops.map LoopFrame.name)) (current : Option Int) (state : State) :
    run.Comes granted loops (earlier.length + blocks.lines.length)
      (run.before loops current earlier.length state)
      (blocks.exec run.program granted state) := by
  induction blocks generalizing earlier later loops current state with
  | nil => exact ⟨0, current, rfl⟩
  | simple number entry rest hypothesis =>
    obtain ⟨simple, nestedRest⟩ := nested
    have first : run.program.lines = earlier ++ (number, entry) :: (rest.lines ++ later) := stored
    obtain ⟨n, walked⟩ := walk_simple first simple loops current state
    rw [Blocks.exec]
    generalize perform run.program entry.statement state = performed at walked ⊢
    rcases performed with ⟨after, failure | cause⟩
    · have restComes := hypothesis loops (earlier ++ [(number, entry)]) later
        (by rw [stored]; simp [Blocks.lines]) nestedRest (some number) after
      have places : (earlier ++ [(number, entry)]).length + rest.lines.length =
          earlier.length + (Blocks.simple number entry rest).lines.length := by
        simp [Blocks.lines]
        omega
      rw [places, List.length_append, List.length_singleton] at restComes
      exact (restComes.lead walked).fewer (by omega)
    · exact ⟨n, _, _, walked⟩
  | loop header body footer rest bodyHypothesis hypothesis =>
    obtain ⟨fresh, nestedBody, nestedRest⟩ := nested
    have opens : run.program.lines = earlier ++
        header.line :: (body.lines ++ footer.line header.name :: (rest.lines ++ later)) := by
      rw [stored]
      simp [Blocks.lines]
    obtain ⟨n, walked⟩ := walk_header opens fresh current state
    rw [Blocks.exec]
    generalize header.enter state.memory = entered at walked ⊢
    rcases entered with ⟨memory, cause | ⟨last, stride⟩⟩
    · exact ⟨n, _, _, walked⟩
    · have bodyComes := fun current state =>
        bodyHypothesis (⟨header.name, last, stride, some header.number⟩ :: loops)
          (earlier ++ [header.line]) (footer.line header.name :: (rest.lines ++ later))
          (by rw [opens]; simp) nestedBody current state
      rw [List.length_append, List.length_singleton] at bodyComes
      have loopComes := passes_comes opens bodyComes granted (Nat.le_refl _)
        (some header.number) { state with memory }
      simp only
      generalize passes (fun state => body.exec run.program granted state)
        (advance header.name last stride) footer.number granted { state with memory } = passed
        at loopComes ⊢
      rcases passed with ⟨after, done | ⟨line, cause⟩ | unfinished⟩
      · obtain ⟨m, current', arrived⟩ := loopComes
        have restComes := hypothesis loops
          (earlier ++ header.line :: (body.lines ++ [footer.line header.name])) later
          (by rw [opens]; simp) nestedRest current' after
        have behind : (earlier ++
            header.line :: (body.lines ++ [footer.line header.name])).length =
            earlier.length + 1 + body.lines.length + 1 := by
          simp
          omega
        have last : earlier.length + 1 + body.lines.length + 1 + rest.lines.length =
            earlier.length + (Blocks.loop header body footer rest).lines.length := by
          simp [Blocks.lines]
          omega
        rw [behind, last] at restComes
        exact (restComes.lead (Scene.play_trans walked arrived)).fewer (by omega)
      · obtain ⟨m, loops', place', failed⟩ := loopComes
        exact ⟨n + m, loops', place', Scene.play_trans walked failed⟩
      · exact (loopComes.lead walked).fewer (by omega)

end Running

end LineBasic.Structured
