import PackageRegistry.Url.Basic
import PackageRegistry.Url.Percent

/-!
The credentials that a URL can hold in front of its host. They are not part of what is asked for:
whoever sends a request takes them out of the URL and presents them apart.
-/

namespace PackageRegistry.Url

/-- The password in plain text; one that is no text counts as missing. -/
def plainPassword? (u : Url) : Option String :=
  if u.password = "" then none else Text.Utf8.text? (percentDecode u.password.toList)

/-- The name and the password in plain text, if the URL has any. A name that is no text hides the
password too. -/
def login? (u : Url) : Option (String × String) := do
  let name ← Text.Utf8.text? (percentDecode u.username.toList)
  if name = "" ∧ u.plainPassword? = none then none else some (name, u.plainPassword?.getD "")

/-- The URL without its credentials, where these can be taken out. -/
def withoutLogin (u : Url) : Url :=
  if u.login?.isSome then { u with username := "", password := "" } else u

end PackageRegistry.Url
