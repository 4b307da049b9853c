/-
The URL of the signing endpoint.

The URL of the coordinator is checked as it is read, but the signing URL is put together as text: slashes at its end
are taken off, and the path of the endpoint is written behind it. The two go together for a URL that ends in a path.
Where it ends in a query or a fragment, the endpoint becomes a part of that; a blank or control character at its end is
no part of the URL, but one inside the signing URL; and slashes that are left at the end of the path, such as one
written as a backslash or one in front of two dots, stay in front of the endpoint.

Main result: `signUrl_reaches_endpoint_iff`, with the witness `endpoint_below_a_path`. Settings that are valid and miss
the endpoint are in `endpoint_missed`.
-/
import LoadTrial.Proofs.Url.Below
import LoadTrial.Proofs.Validation

namespace LoadTrial

theorem Plan.toList_signPath : Plan.signPath.toList = '/' :: "api/v1/sign".toList := by
  decide +kernel

theorem Plan.plain_signPath : Url.Plain "api/v1/sign".toList := by
  decide +kernel

/-- the endpoint for signing at a coordinator -/
def Url.signing (coordinator : Url) : Url :=
  coordinator.below Plan.signPath

namespace Settings

/-- a coordinator that settings name is one that is reached by HTTP -/
theorem special_of_checkUrl {text : String} (h : checkUrl text = .ok ()) :
    ∃ base, Url.parse text = .ok base ∧ Url.syntaxOf base.scheme = .special := by
  rw [checkUrl] at h
  split_ifs at h
  rcases hparse : Url.parse text with f | base
  · rw [hparse] at h
    cases h
  · refine ⟨base, rfl, ?_⟩
    rw [hparse] at h
    dsimp only at h
    split_ifs at h with hscheme
    simp only [Bool.and_eq_true, bne_iff_ne, not_and_not_right] at hscheme
    by_cases hsecure : base.scheme = "https"
    · rw [hsecure]
      decide
    · rw [hscheme hsecure]
      decide

/-- **The signing URL names the endpoint just where the coordinator's URL ends in a path.** The URL of valid settings
can be read. If no blank stands at its end, the signing URL has its scheme, host and port; and it is the one of the
endpoint, behind the coordinator's own path and without a query and a fragment, if and only if moreover the URL has no
query and no fragment, and with one slash at the end of its text has just that at the end of its path. -/
theorem signUrl_reaches_endpoint_iff (s : Settings) (p : Profile) (h : s.validate = .ok ()) :
    ∃ base, Url.parse s.coordinatorUrl = .ok base ∧
      (Url.blanksBehind s.coordinatorUrl.toList = [] → ∃ signed, Url.parse (s.plan p).signUrl = .ok signed ∧
        signed.scheme = base.scheme ∧ signed.host = base.host ∧ signed.port = base.port) ∧
      (Url.parse (s.plan p).signUrl = .ok base.signing ↔
        Url.blanksBehind s.coordinatorUrl.toList = [] ∧ base.query = none ∧ base.fragment = none ∧
          ∃ closed, Url.parse (Text.trimEndOf '/' s.coordinatorUrl ++ "/") = .ok closed ∧
            ¬['/', '/'] <:+ closed.path.toList) := by
  obtain ⟨base, hbase, hspecial⟩ := special_of_checkUrl (validate_eq_ok_iff.1 h).url
  exact ⟨base, hbase, Url.parse_append hbase hspecial Plan.toList_signPath Plan.plain_signPath,
    Url.parse_append_eq_below_iff hbase hspecial Plan.toList_signPath Plan.plain_signPath⟩

/-- slashes at the end of the coordinator's path are no part of the endpoint's -/
theorem endpoint_below_a_path :
    let s : Settings := { coordinatorUrl := "http://[::1]:9080/base//" }
    s.validate = .ok () ∧ Url.parse (s.plan Profile.light).signUrl = .ok {
      scheme := "http", host := some (.ipv6 [0, 0, 0, 0, 0, 0, 0, 1]), port := some 9080,
      path := "/base/api/v1/sign", query := none, fragment := none } := by
  have hvalid : ({ coordinatorUrl := "http://[::1]:9080/base//" } : Settings).validate = .ok () := by decide +kernel
  obtain ⟨base, hbase, -, hiff⟩ := signUrl_reaches_endpoint_iff _ Profile.light hvalid
  have hread : Url.parse "http://[::1]:9080/base//" = .ok {
      scheme := "http", host := some (.ipv6 [0, 0, 0, 0, 0, 0, 0, 1]), port := some 9080,
      path := "/base//", query := none, fragment := none } := by decide +kernel
  cases hread.symm.trans hbase
  have hclosed : Url.parse (Text.trimEndOf '/' "http://[::1]:9080/base//" ++ "/") = .ok {
      scheme := "http", host := some (.ipv6 [0, 0, 0, 0, 0, 0, 0, 1]), port := some 9080,
      path := "/base/", query := none, fragment := none } := by decide +kernel
  refine ⟨hvalid, (hiff.2 ⟨by decide +kernel, rfl, rfl, _, hclosed, by decide +kernel⟩).trans ?_⟩
  decide +kernel

/-- settings are valid, but their signing URL is not the one of the endpoint -/
def MissesEndpoint (s : Settings) : Prop :=
  s.validate = .ok () ∧ Url.parse (s.plan Profile.light).signUrl ≠ (Url.parse s.coordinatorUrl).map Url.signing

instance (s : Settings) : Decidable s.MissesEndpoint :=
  inferInstanceAs (Decidable (_ ∧ _))

/-- in a query, in a fragment, behind a control character, behind a backslash and behind two dots -/
theorem endpoint_missed :
    MissesEndpoint { coordinatorUrl := "http://[::1]:9080/?tenant=1" } ∧
      MissesEndpoint { coordinatorUrl := "http://[::1]:9080/#sign" } ∧
      MissesEndpoint { coordinatorUrl := "http://[::1]:9080/\x01" } ∧
      MissesEndpoint { coordinatorUrl := "http://[::1]:9080/a\\" } ∧
      MissesEndpoint { coordinatorUrl := "http://[::1]:9080///.." } := by
  decide +kernel

end Settings

end LoadTrial
