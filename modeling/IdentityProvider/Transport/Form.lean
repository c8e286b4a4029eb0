import IdentityProvider.Transport.Redirect

namespace IdentityProvider

def referTo (c : Char) (reference s : String) : String :=
  String.ofList (s.toList.flatMap fun d => if d = c then reference.toList else [d])

/-- Ampersands come first, since every reference begins with one. -/
def escapeHtml (s : String) : String :=
  referTo '\'' "&#x27;" <| referTo '"' "&quot;" <| referTo '>' "&gt;" <| referTo '<' "&lt;" <|
    referTo '&' "&amp;" s

def relayStateInput (state : String) : String :=
  "<input type=\"hidden\" name=\"RelayState\" value=\"" ++ escapeHtml state ++ "\"/>"

def formOpening : String :=
  "<!DOCTYPE html>\n" ++
  "<html>\n" ++
  "<head>\n" ++
  "    <meta charset=\"UTF-8\">\n" ++
  "    <title>SAML POST Binding</title>\n" ++
  "</head>\n" ++
  "<body onload=\"document.forms[0].submit()\">\n" ++
  "    <noscript>\n" ++
  "        <p>JavaScript is disabled. Click the button below to continue.</p>\n" ++
  "    </noscript>\n"

def formClosing : String :=
  "        <noscript>\n" ++
  "            <input type=\"submit\" value=\"Continue\"/>\n" ++
  "        </noscript>\n" ++
  "    </form>\n" ++
  "</body>\n" ++
  "</html>"

def postForm (destination : String) (type : MessageType) (payload : String) (relayState : Option String) :
    String :=
  formOpening ++
  "    <form method=\"post\" action=\"" ++ escapeHtml destination ++ "\">\n" ++
  "        <input type=\"hidden\" name=\"" ++ type.parameter ++
    "\" value=\"" ++ escapeHtml payload ++ "\"/>\n" ++
  "        " ++ (relayState.map relayStateInput).getD "" ++ "\n" ++
  formClosing

end IdentityProvider
