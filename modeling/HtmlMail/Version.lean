/-!
# The version

- `version` : the version of the library and of the command
-/

namespace HtmlMail

/-- The version of the library and of the command. -/
def version : String := "0.1.0"

end HtmlMail
