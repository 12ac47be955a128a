import GatewayClient.Endpoint
import GatewayClient.Proofs.Text.Percent

/-!
# GatewayClient.Proofs.Endpoint.Urls

The URLs of a connect tell clients apart. They end in the tab id as a component, the second one
perhaps with the session behind it:

```
server "/sse-gateway/connect?clientId=" component
server "/sse-gateway/listen/" component
server "/sse-gateway/listen/" component ";jsessionid=" session
```

A component has no semicolon, so it ends where the first semicolon behind it stands, whatever the
session is; and it can be decoded, so that it is the component of one tab id only.
-/

namespace GatewayClient.Endpoint

open Text

/-! ## the component -/

/-- What separates the parts of a URL is no character of a component. -/
theorem separator_not_mem_component (s : String) :
    ∀ c ∈ "/?#&;".toList, c ∉ (Percent.component s).toList := by
  have other :
      ("/?#&;".toList.all fun c => c ≠ '%' ∧ c.isAlphanum = false ∧ c ∉ Percent.marks) := by
    decide +kernel
  intro c separator member
  have own := (Percent.isComponent_component s).of_mem member
  have apart := List.all_eq_true.mp other c separator
  rw [decide_eq_true_eq] at apart
  simp [apart] at own

/-! ## the session behind it -/

/-- Different sessions have different suffixes. -/
theorem sessionSuffix_inj {s t : Option String} : sessionSuffix s = sessionSuffix t ↔ s = t := by
  cases s <;> cases t <;> simp [sessionSuffix, ← String.toList_inj]

/-- A component ends at the first semicolon, or else at the end. -/
theorem takeWhile_component (name : String) (session : Option String) :
    ((Percent.component name).toList ++ (sessionSuffix session).toList).takeWhile (· ≠ ';') =
      (Percent.component name).toList := by
  have suffix : (sessionSuffix session).toList.takeWhile (· ≠ ';') = [] := by
    cases session <;> simp [sessionSuffix]
  rw [List.takeWhile_append_of_pos, suffix, List.append_nil]
  intro c member
  rw [decide_eq_true_eq]
  rintro rfl
  exact separator_not_mem_component name ';' (by decide +kernel) member

/-- A component and a suffix behind it can be told apart again. -/
theorem component_append_suffix_inj {name other : String} {s t : Option String} :
    Percent.component name ++ sessionSuffix s = Percent.component other ++ sessionSuffix t ↔
      name = other ∧ s = t := by
  constructor
  · intro same
    have cut := congrArg (fun url => url.toList.takeWhile (· ≠ ';')) same
    simp only [String.toList_append, takeWhile_component, String.toList_inj,
      Percent.component_inj] at cut
    subst cut
    rw [String.append_right_inj, sessionSuffix_inj] at same
    exact ⟨rfl, same⟩
  · rintro ⟨rfl, rfl⟩
    rfl

/-! ## whole URLs -/

theorem connectUrl_eq (server : String) (tab : TabId) : connectUrl server tab =
    server ++ "/sse-gateway/connect?clientId=" ++ Percent.component tab.name := by
  simp [connectUrl, gatewayPath, ← String.toList_inj]

theorem listenUrl_eq (server : String) (tab : TabId) (session : Option String) :
    listenUrl server tab session = server ++ "/sse-gateway/listen/" ++
      (Percent.component tab.name ++ sessionSuffix session) := by
  simp [listenUrl, gatewayPath, ← String.toList_inj]

theorem sessionSuffix_eq (session : Option String) :
    sessionSuffix session = session.elim "" (";jsessionid=" ++ ·) := by
  cases session <;> rfl

/-- **Tabs apart**: a tab id stands in both URLs as a component, from which its bytes can be read
back and in which there is no separator; so URLs of different tab ids are different, whatever
their sessions are, and URLs of different sessions as well. -/
theorem urls_tell_tabs_apart (server : String) :
    (∀ tab, ∃ encoded, Percent.IsComponent encoded.toList ∧
      Percent.decode? encoded.toList = some (Utf8.encode tab.name) ∧
      (∀ c ∈ "/?#&;".toList, c ∉ encoded.toList) ∧
      connectUrl server tab = server ++ "/sse-gateway/connect?clientId=" ++ encoded ∧
      ∀ session, listenUrl server tab session = server ++ "/sse-gateway/listen/" ++
        (encoded ++ session.elim "" (";jsessionid=" ++ ·))) ∧
    (∀ a b, connectUrl server a = connectUrl server b ↔ a = b) ∧
    ∀ a b s t, listenUrl server a s = listenUrl server b t ↔ a = b ∧ s = t := by
  refine ⟨fun tab => ⟨Percent.component tab.name, Percent.isComponent_component tab.name,
    Percent.decode?_component tab.name, separator_not_mem_component tab.name,
    connectUrl_eq server tab, fun session => ?_⟩, fun a b => ?_, fun a b s t => ?_⟩
  · rw [listenUrl_eq, sessionSuffix_eq]
  · rw [connectUrl_eq, connectUrl_eq, String.append_right_inj, Percent.component_inj,
      TabId.mk.injEq]
  · rw [listenUrl_eq, listenUrl_eq, String.append_right_inj, component_append_suffix_inj,
      TabId.mk.injEq]

/-- A tab id that looks like another one with its session behind it. -/
theorem urls_tell_tabs_apart_lookalike :
    (∃ encoded, connectUrl "http://h" ⟨"a;jsessionid=1"⟩ =
        "http://h" ++ "/sse-gateway/connect?clientId=" ++ encoded ∧
      ';' ∈ "/?#&;".toList ∧ ';' ∉ encoded.toList) ∧
    listenUrl "http://h" ⟨"a;jsessionid=1"⟩ none ≠ listenUrl "http://h" ⟨"a"⟩ (some "1") := by
  have separator : ';' ∈ "/?#&;".toList := by decide +kernel
  obtain ⟨parts, -, listens⟩ := urls_tell_tabs_apart "http://h"
  obtain ⟨encoded, -, -, apart, connects, -⟩ := parts ⟨"a;jsessionid=1"⟩
  refine ⟨⟨encoded, connects, separator, apart ';' separator⟩, ?_⟩
  rw [Ne, listens]
  decide

end GatewayClient.Endpoint
