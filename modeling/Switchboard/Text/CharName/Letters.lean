/-!
The names of letters and marks, in runs of neighbouring characters. A digit in front of a name
stands for that many words of the name before it; a character without a name has an empty one.
-/
namespace Switchboard.Text

/-- The letters and marks of the scripts in wide use, and their punctuation. -/
def letterNames : List (Nat × String) :=
  [
    (0x20, "SPACE;EXCLAMATION MARK;QUOTATION MARK;NUMBER SIGN;DOLLAR SIGN;PERCENT SIGN;AMPERSAND;
      APOSTROPHE;LEFT PARENTHESIS;RIGHT PARENTHESIS;ASTERISK;PLUS SIGN;COMMA;HYPHEN-MINUS;FULL
      STOP;SOLIDUS;DIGIT ZERO;1ONE;1TWO;1THREE;1FOUR;1FIVE;1SIX;1SEVEN;1EIGHT;1NINE;COLON;
      SEMICOLON;LESS-THAN SIGN;EQUALS SIGN;GREATER-THAN SIGN;QUESTION MARK;COMMERCIAL AT;LATIN
      CAPITAL LETTER A;3B;3C;3D;3E;3F;3G;3H;3I;3J;3K;3L;3M;3N;3O;3P;3Q;3R;3S;3T;3U;3V;3W;3X;3Y;3Z;
      LEFT SQUARE BRACKET;REVERSE SOLIDUS;RIGHT SQUARE BRACKET;CIRCUMFLEX ACCENT;LOW LINE;GRAVE
      ACCENT;LATIN SMALL LETTER A;3B;3C;3D;3E;3F;3G;3H;3I;3J;3K;3L;3M;3N;3O;3P;3Q;3R;3S;3T;3U;3V;
      3W;3X;3Y;3Z;LEFT CURLY BRACKET;VERTICAL LINE;RIGHT CURLY BRACKET;TILDE"),
    (0xa0, "NO-BREAK SPACE;INVERTED EXCLAMATION MARK;CENT SIGN;POUND SIGN;CURRENCY SIGN;YEN SIGN;
      BROKEN BAR;SECTION SIGN;DIAERESIS;COPYRIGHT SIGN;FEMININE ORDINAL INDICATOR;LEFT-POINTING
      DOUBLE ANGLE QUOTATION MARK;NOT SIGN;SOFT HYPHEN;REGISTERED SIGN;MACRON;DEGREE SIGN;
      PLUS-MINUS SIGN;SUPERSCRIPT TWO;1THREE;ACUTE ACCENT;MICRO SIGN;PILCROW SIGN;MIDDLE DOT;
      CEDILLA;SUPERSCRIPT ONE;MASCULINE ORDINAL INDICATOR;RIGHT-POINTING DOUBLE ANGLE QUOTATION
      MARK;VULGAR FRACTION ONE QUARTER;3HALF;2THREE QUARTERS;INVERTED QUESTION MARK;LATIN CAPITAL
      LETTER A WITH GRAVE;5ACUTE;5CIRCUMFLEX;5TILDE;5DIAERESIS;5RING ABOVE;3AE;3C WITH CEDILLA;3E
      WITH GRAVE;5ACUTE;5CIRCUMFLEX;5DIAERESIS;3I WITH GRAVE;5ACUTE;5CIRCUMFLEX;5DIAERESIS;3ETH;3N
      WITH TILDE;3O WITH GRAVE;5ACUTE;5CIRCUMFLEX;5TILDE;5DIAERESIS;MULTIPLICATION SIGN;LATIN
      CAPITAL LETTER O WITH STROKE;3U WITH GRAVE;5ACUTE;5CIRCUMFLEX;5DIAERESIS;3Y WITH ACUTE;
      3THORN;1SMALL LETTER SHARP S;3A WITH GRAVE;5ACUTE;5CIRCUMFLEX;5TILDE;5DIAERESIS;5RING ABOVE;
      3AE;3C WITH CEDILLA;3E WITH GRAVE;5ACUTE;5CIRCUMFLEX;5DIAERESIS;3I WITH GRAVE;5ACUTE;
      5CIRCUMFLEX;5DIAERESIS;3ETH;3N WITH TILDE;3O WITH GRAVE;5ACUTE;5CIRCUMFLEX;5TILDE;
      5DIAERESIS;DIVISION SIGN;LATIN SMALL LETTER O WITH STROKE;3U WITH GRAVE;5ACUTE;5CIRCUMFLEX;
      5DIAERESIS;3Y WITH ACUTE;3THORN;3Y WITH DIAERESIS;1CAPITAL LETTER A WITH MACRON;1SMALL LETTER
      A WITH MACRON;1CAPITAL LETTER A WITH BREVE;1SMALL LETTER A WITH BREVE;1CAPITAL LETTER A WITH
      OGONEK;1SMALL LETTER A WITH OGONEK;1CAPITAL LETTER C WITH ACUTE;1SMALL LETTER C WITH ACUTE;
      1CAPITAL LETTER C WITH CIRCUMFLEX;1SMALL LETTER C WITH CIRCUMFLEX;1CAPITAL LETTER C WITH DOT
      ABOVE;1SMALL LETTER C WITH DOT ABOVE;1CAPITAL LETTER C WITH CARON;1SMALL LETTER C WITH CARON;
      1CAPITAL LETTER D WITH CARON;1SMALL LETTER D WITH CARON;1CAPITAL LETTER D WITH STROKE;1SMALL
      LETTER D WITH STROKE;1CAPITAL LETTER E WITH MACRON;1SMALL LETTER E WITH MACRON;1CAPITAL
      LETTER E WITH BREVE;1SMALL LETTER E WITH BREVE;1CAPITAL LETTER E WITH DOT ABOVE;1SMALL LETTER
      E WITH DOT ABOVE;1CAPITAL LETTER E WITH OGONEK;1SMALL LETTER E WITH OGONEK;1CAPITAL LETTER E
      WITH CARON;1SMALL LETTER E WITH CARON;1CAPITAL LETTER G WITH CIRCUMFLEX;1SMALL LETTER G WITH
      CIRCUMFLEX;1CAPITAL LETTER G WITH BREVE;1SMALL LETTER G WITH BREVE;1CAPITAL LETTER G WITH DOT
      ABOVE;1SMALL LETTER G WITH DOT ABOVE;1CAPITAL LETTER G WITH CEDILLA;1SMALL LETTER G WITH
      CEDILLA;1CAPITAL LETTER H WITH CIRCUMFLEX;1SMALL LETTER H WITH CIRCUMFLEX;1CAPITAL LETTER H
      WITH STROKE;1SMALL LETTER H WITH STROKE;1CAPITAL LETTER I WITH TILDE;1SMALL LETTER I WITH
      TILDE;1CAPITAL LETTER I WITH MACRON;1SMALL LETTER I WITH MACRON;1CAPITAL LETTER I WITH BREVE;
      1SMALL LETTER I WITH BREVE;1CAPITAL LETTER I WITH OGONEK;1SMALL LETTER I WITH OGONEK;
      1CAPITAL LETTER I WITH DOT ABOVE;1SMALL LETTER DOTLESS I;1CAPITAL LIGATURE IJ;1SMALL LIGATURE
      IJ;1CAPITAL LETTER J WITH CIRCUMFLEX;1SMALL LETTER J WITH CIRCUMFLEX;1CAPITAL LETTER K WITH
      CEDILLA;1SMALL LETTER K WITH CEDILLA;3KRA;1CAPITAL LETTER L WITH ACUTE;1SMALL LETTER L WITH
      ACUTE;1CAPITAL LETTER L WITH CEDILLA;1SMALL LETTER L WITH CEDILLA;1CAPITAL LETTER L WITH
      CARON;1SMALL LETTER L WITH CARON;1CAPITAL LETTER L WITH MIDDLE DOT;1SMALL LETTER L WITH
      MIDDLE DOT;1CAPITAL LETTER L WITH STROKE;1SMALL LETTER L WITH STROKE;1CAPITAL LETTER N WITH
      ACUTE;1SMALL LETTER N WITH ACUTE;1CAPITAL LETTER N WITH CEDILLA;1SMALL LETTER N WITH CEDILLA;
      1CAPITAL LETTER N WITH CARON;1SMALL LETTER N WITH CARON;4PRECEDED BY APOSTROPHE;1CAPITAL
      LETTER ENG;1SMALL LETTER ENG;1CAPITAL LETTER O WITH MACRON;1SMALL LETTER O WITH MACRON;
      1CAPITAL LETTER O WITH BREVE;1SMALL LETTER O WITH BREVE;1CAPITAL LETTER O WITH DOUBLE ACUTE;
      1SMALL LETTER O WITH DOUBLE ACUTE;1CAPITAL LIGATURE OE;1SMALL LIGATURE OE;1CAPITAL LETTER R
      WITH ACUTE;1SMALL LETTER R WITH ACUTE;1CAPITAL LETTER R WITH CEDILLA;1SMALL LETTER R WITH
      CEDILLA;1CAPITAL LETTER R WITH CARON;1SMALL LETTER R WITH CARON;1CAPITAL LETTER S WITH ACUTE;
      1SMALL LETTER S WITH ACUTE;1CAPITAL LETTER S WITH CIRCUMFLEX;1SMALL LETTER S WITH CIRCUMFLEX;
      1CAPITAL LETTER S WITH CEDILLA;1SMALL LETTER S WITH CEDILLA;1CAPITAL LETTER S WITH CARON;
      1SMALL LETTER S WITH CARON;1CAPITAL LETTER T WITH CEDILLA;1SMALL LETTER T WITH CEDILLA;
      1CAPITAL LETTER T WITH CARON;1SMALL LETTER T WITH CARON;1CAPITAL LETTER T WITH STROKE;1SMALL
      LETTER T WITH STROKE;1CAPITAL LETTER U WITH TILDE;1SMALL LETTER U WITH TILDE;1CAPITAL LETTER
      U WITH MACRON;1SMALL LETTER U WITH MACRON;1CAPITAL LETTER U WITH BREVE;1SMALL LETTER U WITH
      BREVE;1CAPITAL LETTER U WITH RING ABOVE;1SMALL LETTER U WITH RING ABOVE;1CAPITAL LETTER U
      WITH DOUBLE ACUTE;1SMALL LETTER U WITH DOUBLE ACUTE;1CAPITAL LETTER U WITH OGONEK;1SMALL
      LETTER U WITH OGONEK;1CAPITAL LETTER W WITH CIRCUMFLEX;1SMALL LETTER W WITH CIRCUMFLEX;
      1CAPITAL LETTER Y WITH CIRCUMFLEX;1SMALL LETTER Y WITH CIRCUMFLEX;1CAPITAL LETTER Y WITH
      DIAERESIS;3Z WITH ACUTE;1SMALL LETTER Z WITH ACUTE;1CAPITAL LETTER Z WITH DOT ABOVE;1SMALL
      LETTER Z WITH DOT ABOVE;1CAPITAL LETTER Z WITH CARON;1SMALL LETTER Z WITH CARON;3LONG S;3B
      WITH STROKE;1CAPITAL LETTER B WITH HOOK;5TOPBAR;1SMALL LETTER B WITH TOPBAR;1CAPITAL LETTER
      TONE SIX;1SMALL LETTER TONE SIX;1CAPITAL LETTER OPEN O;3C WITH HOOK;1SMALL LETTER C WITH
      HOOK;1CAPITAL LETTER AFRICAN D;3D WITH HOOK;5TOPBAR;1SMALL LETTER D WITH TOPBAR;3TURNED
      DELTA;1CAPITAL LETTER REVERSED E;3SCHWA;3OPEN E;3F WITH HOOK;1SMALL LETTER F WITH HOOK;
      1CAPITAL LETTER G WITH HOOK;3GAMMA;1SMALL LETTER HV;1CAPITAL LETTER IOTA;3I WITH STROKE;3K
      WITH HOOK;1SMALL LETTER K WITH HOOK;3L WITH BAR;3LAMBDA WITH STROKE;1CAPITAL LETTER TURNED M;
      3N WITH LEFT HOOK;1SMALL LETTER N WITH LONG RIGHT LEG;1CAPITAL LETTER O WITH MIDDLE TILDE;
      5HORN;1SMALL LETTER O WITH HORN;1CAPITAL LETTER OI;1SMALL LETTER OI;1CAPITAL LETTER P WITH
      HOOK;1SMALL LETTER P WITH HOOK;1LETTER YR;1CAPITAL LETTER TONE TWO;1SMALL LETTER TONE TWO;
      1CAPITAL LETTER ESH;1LETTER REVERSED ESH LOOP;1SMALL LETTER T WITH PALATAL HOOK;1CAPITAL
      LETTER T WITH HOOK;1SMALL LETTER T WITH HOOK;1CAPITAL LETTER T WITH RETROFLEX HOOK;3U WITH
      HORN;1SMALL LETTER U WITH HORN;1CAPITAL LETTER UPSILON;3V WITH HOOK;3Y WITH HOOK;1SMALL
      LETTER Y WITH HOOK;1CAPITAL LETTER Z WITH STROKE;1SMALL LETTER Z WITH STROKE;1CAPITAL LETTER
      EZH;4REVERSED;1SMALL LETTER EZH REVERSED;4WITH TAIL;1LETTER TWO WITH STROKE;1CAPITAL LETTER
      TONE FIVE;1SMALL LETTER TONE FIVE;1LETTER INVERTED GLOTTAL STOP WITH STROKE;2WYNN;2DENTAL
      CLICK;2LATERAL CLICK;2ALVEOLAR CLICK;2RETROFLEX CLICK;1CAPITAL LETTER DZ WITH CARON;3D WITH
      SMALL LETTER Z WITH CARON;1SMALL LETTER DZ WITH CARON;1CAPITAL LETTER LJ;3L WITH SMALL LETTER
      J;1SMALL LETTER LJ;1CAPITAL LETTER NJ;3N WITH SMALL LETTER J;1SMALL LETTER NJ;1CAPITAL LETTER
      A WITH CARON;1SMALL LETTER A WITH CARON;1CAPITAL LETTER I WITH CARON;1SMALL LETTER I WITH
      CARON;1CAPITAL LETTER O WITH CARON;1SMALL LETTER O WITH CARON;1CAPITAL LETTER U WITH CARON;
      1SMALL LETTER U WITH CARON;1CAPITAL LETTER U WITH DIAERESIS AND MACRON;1SMALL LETTER U WITH
      DIAERESIS AND MACRON;1CAPITAL LETTER U WITH DIAERESIS AND ACUTE;1SMALL LETTER U WITH
      DIAERESIS AND ACUTE;1CAPITAL LETTER U WITH DIAERESIS AND CARON;1SMALL LETTER U WITH DIAERESIS
      AND CARON;1CAPITAL LETTER U WITH DIAERESIS AND GRAVE;1SMALL LETTER U WITH DIAERESIS AND
      GRAVE;3TURNED E;1CAPITAL LETTER A WITH DIAERESIS AND MACRON;1SMALL LETTER A WITH DIAERESIS
      AND MACRON;1CAPITAL LETTER A WITH DOT ABOVE AND MACRON;1SMALL LETTER A WITH DOT ABOVE AND
      MACRON;1CAPITAL LETTER AE WITH MACRON;1SMALL LETTER AE WITH MACRON;1CAPITAL LETTER G WITH
      STROKE;1SMALL LETTER G WITH STROKE;1CAPITAL LETTER G WITH CARON;1SMALL LETTER G WITH CARON;
      1CAPITAL LETTER K WITH CARON;1SMALL LETTER K WITH CARON;1CAPITAL LETTER O WITH OGONEK;1SMALL
      LETTER O WITH OGONEK;1CAPITAL LETTER O WITH OGONEK AND MACRON;1SMALL LETTER O WITH OGONEK AND
      MACRON;1CAPITAL LETTER EZH WITH CARON;1SMALL LETTER EZH WITH CARON;3J WITH CARON;1CAPITAL
      LETTER DZ;3D WITH SMALL LETTER Z;1SMALL LETTER DZ;1CAPITAL LETTER G WITH ACUTE;1SMALL LETTER
      G WITH ACUTE;1CAPITAL LETTER HWAIR;3WYNN;3N WITH GRAVE;1SMALL LETTER N WITH GRAVE;1CAPITAL
      LETTER A WITH RING ABOVE AND ACUTE;1SMALL LETTER A WITH RING ABOVE AND ACUTE;1CAPITAL LETTER
      AE WITH ACUTE;1SMALL LETTER AE WITH ACUTE;1CAPITAL LETTER O WITH STROKE AND ACUTE;1SMALL
      LETTER O WITH STROKE AND ACUTE;1CAPITAL LETTER A WITH DOUBLE GRAVE;1SMALL LETTER A WITH
      DOUBLE GRAVE;1CAPITAL LETTER A WITH INVERTED BREVE;1SMALL LETTER A WITH INVERTED BREVE;
      1CAPITAL LETTER E WITH DOUBLE GRAVE;1SMALL LETTER E WITH DOUBLE GRAVE;1CAPITAL LETTER E WITH
      INVERTED BREVE;1SMALL LETTER E WITH INVERTED BREVE;1CAPITAL LETTER I WITH DOUBLE GRAVE;
      1SMALL LETTER I WITH DOUBLE GRAVE;1CAPITAL LETTER I WITH INVERTED BREVE;1SMALL LETTER I WITH
      INVERTED BREVE;1CAPITAL LETTER O WITH DOUBLE GRAVE;1SMALL LETTER O WITH DOUBLE GRAVE;
      1CAPITAL LETTER O WITH INVERTED BREVE;1SMALL LETTER O WITH INVERTED BREVE;1CAPITAL LETTER R
      WITH DOUBLE GRAVE;1SMALL LETTER R WITH DOUBLE GRAVE;1CAPITAL LETTER R WITH INVERTED BREVE;
      1SMALL LETTER R WITH INVERTED BREVE;1CAPITAL LETTER U WITH DOUBLE GRAVE;1SMALL LETTER U WITH
      DOUBLE GRAVE;1CAPITAL LETTER U WITH INVERTED BREVE;1SMALL LETTER U WITH INVERTED BREVE;
      1CAPITAL LETTER S WITH COMMA BELOW;1SMALL LETTER S WITH COMMA BELOW;1CAPITAL LETTER T WITH
      COMMA BELOW;1SMALL LETTER T WITH COMMA BELOW;1CAPITAL LETTER YOGH;1SMALL LETTER YOGH;
      1CAPITAL LETTER H WITH CARON;1SMALL LETTER H WITH CARON;1CAPITAL LETTER N WITH LONG RIGHT
      LEG;1SMALL LETTER D WITH CURL;1CAPITAL LETTER OU;1SMALL LETTER OU;1CAPITAL LETTER Z WITH
      HOOK;1SMALL LETTER Z WITH HOOK;1CAPITAL LETTER A WITH DOT ABOVE;1SMALL LETTER A WITH DOT
      ABOVE;1CAPITAL LETTER E WITH CEDILLA;1SMALL LETTER E WITH CEDILLA;1CAPITAL LETTER O WITH
      DIAERESIS AND MACRON;1SMALL LETTER O WITH DIAERESIS AND MACRON;1CAPITAL LETTER O WITH TILDE
      AND MACRON;1SMALL LETTER O WITH TILDE AND MACRON;1CAPITAL LETTER O WITH DOT ABOVE;1SMALL
      LETTER O WITH DOT ABOVE;1CAPITAL LETTER O WITH DOT ABOVE AND MACRON;1SMALL LETTER O WITH DOT
      ABOVE AND MACRON;1CAPITAL LETTER Y WITH MACRON;1SMALL LETTER Y WITH MACRON;3L WITH CURL;3N
      WITH CURL;3T WITH CURL;3DOTLESS J;3DB DIGRAPH;3QP DIGRAPH;1CAPITAL LETTER A WITH STROKE;3C
      WITH STROKE;1SMALL LETTER C WITH STROKE;1CAPITAL LETTER L WITH BAR;3T WITH DIAGONAL STROKE;
      1SMALL LETTER S WITH SWASH TAIL;3Z WITH SWASH TAIL;1CAPITAL LETTER GLOTTAL STOP;1SMALL LETTER
      GLOTTAL STOP;1CAPITAL LETTER B WITH STROKE;3U BAR;3TURNED V;3E WITH STROKE;1SMALL LETTER E
      WITH STROKE;1CAPITAL LETTER J WITH STROKE;1SMALL LETTER J WITH STROKE;1CAPITAL LETTER SMALL Q
      WITH HOOK TAIL;1SMALL LETTER Q WITH HOOK TAIL;1CAPITAL LETTER R WITH STROKE;1SMALL LETTER R
      WITH STROKE;1CAPITAL LETTER Y WITH STROKE;1SMALL LETTER Y WITH STROKE;3TURNED A;3ALPHA;
      3TURNED ALPHA;3B WITH HOOK;3OPEN O;3C WITH CURL;3D WITH TAIL;5HOOK;3REVERSED E;3SCHWA;4WITH
      HOOK;3OPEN E;3REVERSED OPEN E;6WITH HOOK;3CLOSED REVERSED OPEN E;3DOTLESS J WITH STROKE;3G
      WITH HOOK;3SCRIPT G;1LETTER SMALL CAPITAL G;1SMALL LETTER GAMMA;3RAMS HORN;3TURNED H;3H WITH
      HOOK;3HENG WITH HOOK;3I WITH STROKE;3IOTA;1LETTER SMALL CAPITAL I;1SMALL LETTER L WITH MIDDLE
      TILDE;5BELT;5RETROFLEX HOOK;3LEZH;3TURNED M;5WITH LONG LEG;3M WITH HOOK;3N WITH LEFT HOOK;
      5RETROFLEX HOOK;1LETTER SMALL CAPITAL N;1SMALL LETTER BARRED O;1LETTER SMALL CAPITAL OE;
      1SMALL LETTER CLOSED OMEGA;3PHI;3TURNED R;5WITH LONG LEG;6HOOK;3R WITH LONG LEG;5TAIL;
      5FISHHOOK;3REVERSED R WITH FISHHOOK;1LETTER SMALL CAPITAL R;4INVERTED R;1SMALL LETTER S WITH
      HOOK;3ESH;3DOTLESS J WITH STROKE AND HOOK;3SQUAT REVERSED ESH;3ESH WITH CURL;3TURNED T;3T
      WITH RETROFLEX HOOK;3U BAR;3UPSILON;3V WITH HOOK;3TURNED V;4W;4Y;1LETTER SMALL CAPITAL Y;
      1SMALL LETTER Z WITH RETROFLEX HOOK;5CURL;3EZH;4WITH CURL;1LETTER GLOTTAL STOP;2PHARYNGEAL
      VOICED FRICATIVE;2INVERTED GLOTTAL STOP;2STRETCHED C;2BILABIAL CLICK;2SMALL CAPITAL B;1SMALL
      LETTER CLOSED OPEN E;1LETTER SMALL CAPITAL G WITH HOOK;4H;1SMALL LETTER J WITH CROSSED-TAIL;
      3TURNED K;1LETTER SMALL CAPITAL L;1SMALL LETTER Q WITH HOOK;1LETTER GLOTTAL STOP WITH STROKE;
      2REVERSED GLOTTAL STOP WITH STROKE;1SMALL LETTER DZ DIGRAPH;3DEZH DIGRAPH;3DZ DIGRAPH WITH
      CURL;3TS DIGRAPH;3TESH DIGRAPH;3TC DIGRAPH WITH CURL;3FENG DIGRAPH;3LS DIGRAPH;3LZ DIGRAPH;
      1LETTER BILABIAL PERCUSSIVE;2BIDENTAL PERCUSSIVE;1SMALL LETTER TURNED H WITH FISHHOOK;7AND
      TAIL;MODIFIER LETTER SMALL H;4WITH HOOK;3J;3R;3TURNED R;5WITH HOOK;3CAPITAL INVERTED R;3W;
      3Y;2PRIME;2DOUBLE PRIME;2TURNED COMMA;2APOSTROPHE;2REVERSED COMMA;2RIGHT HALF RING;2LEFT HALF
      RING;2GLOTTAL STOP;2REVERSED GLOTTAL STOP;2LEFT ARROWHEAD;2RIGHT ARROWHEAD;2UP ARROWHEAD;
      2DOWN ARROWHEAD;2CIRCUMFLEX ACCENT;CARON;MODIFIER LETTER VERTICAL LINE;2MACRON;2ACUTE ACCENT;
      2GRAVE ACCENT;2LOW VERTICAL LINE;3MACRON;3GRAVE ACCENT;3ACUTE ACCENT;2TRIANGULAR COLON;2HALF
      TRIANGULAR COLON;2CENTRED RIGHT HALF RING;3LEFT HALF RING;2UP TACK;2DOWN TACK;2PLUS SIGN;
      2MINUS SIGN;BREVE;DOT ABOVE;RING ABOVE;OGONEK;SMALL TILDE;DOUBLE ACUTE ACCENT;MODIFIER LETTER
      RHOTIC HOOK;2CROSS ACCENT;2SMALL GAMMA;3L;3S;3X;3REVERSED GLOTTAL STOP;2EXTRA-HIGH TONE BAR;
      2HIGH TONE BAR;2MID TONE BAR;2LOW TONE BAR;2EXTRA-LOW TONE BAR;2YIN DEPARTING TONE MARK;
      2YANG DEPARTING TONE MARK;2VOICING;2UNASPIRATED;2DOUBLE APOSTROPHE;2LOW DOWN ARROWHEAD;3UP
      ARROWHEAD;3LEFT ARROWHEAD;3RIGHT ARROWHEAD;3RING;2MIDDLE GRAVE ACCENT;3DOUBLE GRAVE ACCENT;
      4ACUTE ACCENT;2LOW TILDE;2RAISED COLON;2BEGIN HIGH TONE;2END HIGH TONE;2BEGIN LOW TONE;2END
      LOW TONE;2SHELF;2OPEN SHELF;2LOW LEFT ARROW;COMBINING GRAVE ACCENT;1ACUTE ACCENT;1CIRCUMFLEX
      ACCENT;1TILDE;1MACRON;1OVERLINE;1BREVE;1DOT ABOVE;1DIAERESIS;1HOOK ABOVE;1RING ABOVE;1DOUBLE
      ACUTE ACCENT;1CARON;1VERTICAL LINE ABOVE;1DOUBLE VERTICAL LINE ABOVE;2GRAVE ACCENT;
      1CANDRABINDU;1INVERTED BREVE;1TURNED COMMA ABOVE;1COMMA ABOVE;1REVERSED COMMA ABOVE;1COMMA
      ABOVE RIGHT;1GRAVE ACCENT BELOW;1ACUTE ACCENT BELOW;1LEFT TACK BELOW;1RIGHT TACK BELOW;1LEFT
      ANGLE ABOVE;1HORN;1LEFT HALF RING BELOW;1UP TACK BELOW;1DOWN TACK BELOW;1PLUS SIGN BELOW;
      1MINUS SIGN BELOW;1PALATALIZED HOOK BELOW;1RETROFLEX HOOK BELOW;1DOT BELOW;1DIAERESIS BELOW;
      1RING BELOW;1COMMA BELOW;1CEDILLA;1OGONEK;1VERTICAL LINE BELOW;1BRIDGE BELOW;1INVERTED DOUBLE
      ARCH BELOW;1CARON BELOW;1CIRCUMFLEX ACCENT BELOW;1BREVE BELOW;1INVERTED BREVE BELOW;1TILDE
      BELOW;1MACRON BELOW;1LOW LINE;1DOUBLE LOW LINE;1TILDE OVERLAY;1SHORT STROKE OVERLAY;1LONG
      STROKE OVERLAY;1SHORT SOLIDUS OVERLAY;1LONG SOLIDUS OVERLAY;1RIGHT HALF RING BELOW;1INVERTED
      BRIDGE BELOW;1SQUARE BELOW;1SEAGULL BELOW;1X ABOVE;1VERTICAL TILDE;1DOUBLE OVERLINE;1GRAVE
      TONE MARK;1ACUTE TONE MARK;1GREEK PERISPOMENI;2KORONIS;2DIALYTIKA TONOS;2YPOGEGRAMMENI;
      1BRIDGE ABOVE;1EQUALS SIGN BELOW;1DOUBLE VERTICAL LINE BELOW;1LEFT ANGLE BELOW;1NOT TILDE
      ABOVE;1HOMOTHETIC ABOVE;1ALMOST EQUAL TO ABOVE;1LEFT RIGHT ARROW BELOW;1UPWARDS ARROW BELOW;
      1GRAPHEME JOINER;1RIGHT ARROWHEAD ABOVE;1LEFT HALF RING ABOVE;1FERMATA;1X BELOW;1LEFT
      ARROWHEAD BELOW;1RIGHT ARROWHEAD BELOW;3AND UP ARROWHEAD BELOW;2HALF RING ABOVE;1DOT ABOVE
      RIGHT;1ASTERISK BELOW;1DOUBLE RING BELOW;1ZIGZAG ABOVE;1DOUBLE BREVE BELOW;2BREVE;2MACRON;
      3BELOW;2TILDE;2INVERTED BREVE;2RIGHTWARDS ARROW BELOW;1LATIN SMALL LETTER A;4E;4I;4O;4U;4C;
      4D;4H;4M;4R;4T;4V;4X;GREEK CAPITAL LETTER HETA;1SMALL LETTER HETA;1CAPITAL LETTER ARCHAIC
      SAMPI;1SMALL LETTER ARCHAIC SAMPI;1NUMERAL SIGN;1LOWER NUMERAL SIGN;1CAPITAL LETTER
      PAMPHYLIAN DIGAMMA;1SMALL LETTER PAMPHYLIAN DIGAMMA;;;1YPOGEGRAMMENI;1SMALL REVERSED LUNATE
      SIGMA SYMBOL;2DOTTED LUNATE SIGMA SYMBOL;2REVERSED DOTTED LUNATE SIGMA SYMBOL;1QUESTION MARK;
      1CAPITAL LETTER YOT;;;;;1TONOS;1DIALYTIKA TONOS;1CAPITAL LETTER ALPHA WITH TONOS;1ANO TELEIA;
      1CAPITAL LETTER EPSILON WITH TONOS;3ETA WITH TONOS;3IOTA WITH TONOS;;3OMICRON WITH TONOS;;
      3UPSILON WITH TONOS;3OMEGA WITH TONOS;1SMALL LETTER IOTA WITH DIALYTIKA AND TONOS;1CAPITAL
      LETTER ALPHA;3BETA;3GAMMA;3DELTA;3EPSILON;3ZETA;3ETA;3THETA;3IOTA;3KAPPA;3LAMDA;3MU;3NU;3XI;
      3OMICRON;3PI;3RHO;;3SIGMA;3TAU;3UPSILON;3PHI;3CHI;3PSI;3OMEGA;3IOTA WITH DIALYTIKA;3UPSILON
      WITH DIALYTIKA;1SMALL LETTER ALPHA WITH TONOS;3EPSILON WITH TONOS;3ETA WITH TONOS;3IOTA WITH
      TONOS;3UPSILON WITH DIALYTIKA AND TONOS;3ALPHA;3BETA;3GAMMA;3DELTA;3EPSILON;3ZETA;3ETA;
      3THETA;3IOTA;3KAPPA;3LAMDA;3MU;3NU;3XI;3OMICRON;3PI;3RHO;3FINAL SIGMA;3SIGMA;3TAU;3UPSILON;
      3PHI;3CHI;3PSI;3OMEGA;3IOTA WITH DIALYTIKA;3UPSILON WITH DIALYTIKA;3OMICRON WITH TONOS;
      3UPSILON WITH TONOS;3OMEGA WITH TONOS;1CAPITAL KAI SYMBOL;1BETA SYMBOL;1THETA SYMBOL;
      1UPSILON WITH HOOK SYMBOL;3ACUTE AND HOOK SYMBOL;3DIAERESIS AND HOOK SYMBOL;1PHI SYMBOL;1PI
      SYMBOL;1KAI SYMBOL;1LETTER ARCHAIC KOPPA;1SMALL LETTER ARCHAIC KOPPA;1LETTER STIGMA;1SMALL
      LETTER STIGMA;1LETTER DIGAMMA;1SMALL LETTER DIGAMMA;1LETTER KOPPA;1SMALL LETTER KOPPA;
      1LETTER SAMPI;1SMALL LETTER SAMPI;COPTIC CAPITAL LETTER SHEI;1SMALL LETTER SHEI;1CAPITAL
      LETTER FEI;1SMALL LETTER FEI;1CAPITAL LETTER KHEI;1SMALL LETTER KHEI;1CAPITAL LETTER HORI;
      1SMALL LETTER HORI;1CAPITAL LETTER GANGIA;1SMALL LETTER GANGIA;1CAPITAL LETTER SHIMA;1SMALL
      LETTER SHIMA;1CAPITAL LETTER DEI;1SMALL LETTER DEI;GREEK KAPPA SYMBOL;1RHO SYMBOL;1LUNATE
      SIGMA SYMBOL;1LETTER YOT;1CAPITAL THETA SYMBOL;1LUNATE EPSILON SYMBOL;1REVERSED LUNATE
      EPSILON SYMBOL;1CAPITAL LETTER SHO;1SMALL LETTER SHO;1CAPITAL LUNATE SIGMA SYMBOL;2LETTER
      SAN;1SMALL LETTER SAN;1RHO WITH STROKE SYMBOL;1CAPITAL REVERSED LUNATE SIGMA SYMBOL;2DOTTED
      LUNATE SIGMA SYMBOL;2REVERSED DOTTED LUNATE SIGMA SYMBOL;CYRILLIC CAPITAL LETTER IE WITH
      GRAVE;3IO;3DJE;3GJE;3UKRAINIAN IE;3DZE;3BYELORUSSIAN-UKRAINIAN I;3YI;3JE;3LJE;3NJE;3TSHE;
      3KJE;3I WITH GRAVE;3SHORT U;3DZHE;3A;3BE;3VE;3GHE;3DE;3IE;3ZHE;3ZE;3I;3SHORT I;3KA;3EL;3EM;
      3EN;3O;3PE;3ER;3ES;3TE;3U;3EF;3HA;3TSE;3CHE;3SHA;3SHCHA;3HARD SIGN;3YERU;3SOFT SIGN;3E;3YU;
      3YA;1SMALL LETTER A;3BE;3VE;3GHE;3DE;3IE;3ZHE;3ZE;3I;3SHORT I;3KA;3EL;3EM;3EN;3O;3PE;3ER;
      3ES;3TE;3U;3EF;3HA;3TSE;3CHE;3SHA;3SHCHA;3HARD SIGN;3YERU;3SOFT SIGN;3E;3YU;3YA;3IE WITH
      GRAVE;3IO;3DJE;3GJE;3UKRAINIAN IE;3DZE;3BYELORUSSIAN-UKRAINIAN I;3YI;3JE;3LJE;3NJE;3TSHE;
      3KJE;3I WITH GRAVE;3SHORT U;3DZHE;1CAPITAL LETTER OMEGA;1SMALL LETTER OMEGA;1CAPITAL LETTER
      YAT;1SMALL LETTER YAT;1CAPITAL LETTER IOTIFIED E;1SMALL LETTER IOTIFIED E;1CAPITAL LETTER
      LITTLE YUS;1SMALL LETTER LITTLE YUS;1CAPITAL LETTER IOTIFIED LITTLE YUS;1SMALL LETTER
      IOTIFIED LITTLE YUS;1CAPITAL LETTER BIG YUS;1SMALL LETTER BIG YUS;1CAPITAL LETTER IOTIFIED
      BIG YUS;1SMALL LETTER IOTIFIED BIG YUS;1CAPITAL LETTER KSI;1SMALL LETTER KSI;1CAPITAL LETTER
      PSI;1SMALL LETTER PSI;1CAPITAL LETTER FITA;1SMALL LETTER FITA;1CAPITAL LETTER IZHITSA;1SMALL
      LETTER IZHITSA;1CAPITAL LETTER IZHITSA WITH DOUBLE GRAVE ACCENT;1SMALL LETTER IZHITSA WITH
      DOUBLE GRAVE ACCENT;1CAPITAL LETTER UK;1SMALL LETTER UK;1CAPITAL LETTER ROUND OMEGA;1SMALL
      LETTER ROUND OMEGA;1CAPITAL LETTER OMEGA WITH TITLO;1SMALL LETTER OMEGA WITH TITLO;1CAPITAL
      LETTER OT;1SMALL LETTER OT;1CAPITAL LETTER KOPPA;1SMALL LETTER KOPPA;1THOUSANDS SIGN;
      COMBINING CYRILLIC TITLO;2PALATALIZATION;2DASIA PNEUMATA;2PSILI PNEUMATA;2POKRYTIE;2HUNDRED
      THOUSANDS SIGN;2MILLIONS SIGN;CYRILLIC CAPITAL LETTER SHORT I WITH TAIL;1SMALL LETTER SHORT I
      WITH TAIL;1CAPITAL LETTER SEMISOFT SIGN;1SMALL LETTER SEMISOFT SIGN;1CAPITAL LETTER ER WITH
      TICK;1SMALL LETTER ER WITH TICK;1CAPITAL LETTER GHE WITH UPTURN;1SMALL LETTER GHE WITH
      UPTURN;1CAPITAL LETTER GHE WITH STROKE;1SMALL LETTER GHE WITH STROKE;1CAPITAL LETTER GHE WITH
      MIDDLE HOOK;1SMALL LETTER GHE WITH MIDDLE HOOK;1CAPITAL LETTER ZHE WITH DESCENDER;1SMALL
      LETTER ZHE WITH DESCENDER;1CAPITAL LETTER ZE WITH DESCENDER;1SMALL LETTER ZE WITH DESCENDER;
      1CAPITAL LETTER KA WITH DESCENDER;1SMALL LETTER KA WITH DESCENDER;1CAPITAL LETTER KA WITH
      VERTICAL STROKE;1SMALL LETTER KA WITH VERTICAL STROKE;1CAPITAL LETTER KA WITH STROKE;1SMALL
      LETTER KA WITH STROKE;1CAPITAL LETTER BASHKIR KA;1SMALL LETTER BASHKIR KA;1CAPITAL LETTER EN
      WITH DESCENDER;1SMALL LETTER EN WITH DESCENDER;1CAPITAL LIGATURE EN GHE;1SMALL LIGATURE EN
      GHE;1CAPITAL LETTER PE WITH MIDDLE HOOK;1SMALL LETTER PE WITH MIDDLE HOOK;1CAPITAL LETTER
      ABKHASIAN HA;1SMALL LETTER ABKHASIAN HA;1CAPITAL LETTER ES WITH DESCENDER;1SMALL LETTER ES
      WITH DESCENDER;1CAPITAL LETTER TE WITH DESCENDER;1SMALL LETTER TE WITH DESCENDER;1CAPITAL
      LETTER STRAIGHT U;1SMALL LETTER STRAIGHT U;1CAPITAL LETTER STRAIGHT U WITH STROKE;1SMALL
      LETTER STRAIGHT U WITH STROKE;1CAPITAL LETTER HA WITH DESCENDER;1SMALL LETTER HA WITH
      DESCENDER;1CAPITAL LIGATURE TE TSE;1SMALL LIGATURE TE TSE;1CAPITAL LETTER CHE WITH DESCENDER;
      1SMALL LETTER CHE WITH DESCENDER;1CAPITAL LETTER CHE WITH VERTICAL STROKE;1SMALL LETTER CHE
      WITH VERTICAL STROKE;1CAPITAL LETTER SHHA;1SMALL LETTER SHHA;1CAPITAL LETTER ABKHASIAN CHE;
      1SMALL LETTER ABKHASIAN CHE;1CAPITAL LETTER ABKHASIAN CHE WITH DESCENDER;1SMALL LETTER
      ABKHASIAN CHE WITH DESCENDER;1LETTER PALOCHKA;1CAPITAL LETTER ZHE WITH BREVE;1SMALL LETTER
      ZHE WITH BREVE;1CAPITAL LETTER KA WITH HOOK;1SMALL LETTER KA WITH HOOK;1CAPITAL LETTER EL
      WITH TAIL;1SMALL LETTER EL WITH TAIL;1CAPITAL LETTER EN WITH HOOK;1SMALL LETTER EN WITH HOOK;
      1CAPITAL LETTER EN WITH TAIL;1SMALL LETTER EN WITH TAIL;1CAPITAL LETTER KHAKASSIAN CHE;
      1SMALL LETTER KHAKASSIAN CHE;1CAPITAL LETTER EM WITH TAIL;1SMALL LETTER EM WITH TAIL;
      3PALOCHKA;1CAPITAL LETTER A WITH BREVE;1SMALL LETTER A WITH BREVE;1CAPITAL LETTER A WITH
      DIAERESIS;1SMALL LETTER A WITH DIAERESIS;1CAPITAL LIGATURE A IE;1SMALL LIGATURE A IE;
      1CAPITAL LETTER IE WITH BREVE;1SMALL LETTER IE WITH BREVE;1CAPITAL LETTER SCHWA;1SMALL LETTER
      SCHWA;1CAPITAL LETTER SCHWA WITH DIAERESIS;1SMALL LETTER SCHWA WITH DIAERESIS;1CAPITAL LETTER
      ZHE WITH DIAERESIS;1SMALL LETTER ZHE WITH DIAERESIS;1CAPITAL LETTER ZE WITH DIAERESIS;1SMALL
      LETTER ZE WITH DIAERESIS;1CAPITAL LETTER ABKHASIAN DZE;1SMALL LETTER ABKHASIAN DZE;1CAPITAL
      LETTER I WITH MACRON;1SMALL LETTER I WITH MACRON;1CAPITAL LETTER I WITH DIAERESIS;1SMALL
      LETTER I WITH DIAERESIS;1CAPITAL LETTER O WITH DIAERESIS;1SMALL LETTER O WITH DIAERESIS;
      1CAPITAL LETTER BARRED O;1SMALL LETTER BARRED O;1CAPITAL LETTER BARRED O WITH DIAERESIS;
      1SMALL LETTER BARRED O WITH DIAERESIS;1CAPITAL LETTER E WITH DIAERESIS;1SMALL LETTER E WITH
      DIAERESIS;1CAPITAL LETTER U WITH MACRON;1SMALL LETTER U WITH MACRON;1CAPITAL LETTER U WITH
      DIAERESIS;1SMALL LETTER U WITH DIAERESIS;1CAPITAL LETTER U WITH DOUBLE ACUTE;1SMALL LETTER U
      WITH DOUBLE ACUTE;1CAPITAL LETTER CHE WITH DIAERESIS;1SMALL LETTER CHE WITH DIAERESIS;
      1CAPITAL LETTER GHE WITH DESCENDER;1SMALL LETTER GHE WITH DESCENDER;1CAPITAL LETTER YERU WITH
      DIAERESIS;1SMALL LETTER YERU WITH DIAERESIS;1CAPITAL LETTER GHE WITH STROKE AND HOOK;1SMALL
      LETTER GHE WITH STROKE AND HOOK;1CAPITAL LETTER HA WITH HOOK;1SMALL LETTER HA WITH HOOK;
      1CAPITAL LETTER HA WITH STROKE;1SMALL LETTER HA WITH STROKE;1CAPITAL LETTER KOMI DE;1SMALL
      LETTER KOMI DE;1CAPITAL LETTER KOMI DJE;1SMALL LETTER KOMI DJE;1CAPITAL LETTER KOMI ZJE;
      1SMALL LETTER KOMI ZJE;1CAPITAL LETTER KOMI DZJE;1SMALL LETTER KOMI DZJE;1CAPITAL LETTER KOMI
      LJE;1SMALL LETTER KOMI LJE;1CAPITAL LETTER KOMI NJE;1SMALL LETTER KOMI NJE;1CAPITAL LETTER
      KOMI SJE;1SMALL LETTER KOMI SJE;1CAPITAL LETTER KOMI TJE;1SMALL LETTER KOMI TJE;1CAPITAL
      LETTER REVERSED ZE;1SMALL LETTER REVERSED ZE;1CAPITAL LETTER EL WITH HOOK;1SMALL LETTER EL
      WITH HOOK;1CAPITAL LETTER LHA;1SMALL LETTER LHA;1CAPITAL LETTER RHA;1SMALL LETTER RHA;
      1CAPITAL LETTER YAE;1SMALL LETTER YAE;1CAPITAL LETTER QA;1SMALL LETTER QA;1CAPITAL LETTER WE;
      1SMALL LETTER WE;1CAPITAL LETTER ALEUT KA;1SMALL LETTER ALEUT KA;1CAPITAL LETTER EL WITH
      MIDDLE HOOK;1SMALL LETTER EL WITH MIDDLE HOOK;1CAPITAL LETTER EN WITH MIDDLE HOOK;1SMALL
      LETTER EN WITH MIDDLE HOOK;1CAPITAL LETTER PE WITH DESCENDER;1SMALL LETTER PE WITH DESCENDER;
      1CAPITAL LETTER SHHA WITH DESCENDER;1SMALL LETTER SHHA WITH DESCENDER;1CAPITAL LETTER EN WITH
      LEFT HOOK;1SMALL LETTER EN WITH LEFT HOOK;1CAPITAL LETTER DZZHE;1SMALL LETTER DZZHE;1CAPITAL
      LETTER DCHE;1SMALL LETTER DCHE;1CAPITAL LETTER EL WITH DESCENDER;1SMALL LETTER EL WITH
      DESCENDER;;ARMENIAN CAPITAL LETTER AYB;3BEN;3GIM;3DA;3ECH;3ZA;3EH;3ET;3TO;3ZHE;3INI;3LIWN;
      3XEH;3CA;3KEN;3HO;3JA;3GHAD;3CHEH;3MEN;3YI;3NOW;3SHA;3VO;3CHA;3PEH;3JHEH;3RA;3SEH;3VEW;
      3TIWN;3REH;3CO;3YIWN;3PIWR;3KEH;3OH;3FEH;;;1MODIFIER LETTER LEFT HALF RING;1APOSTROPHE;
      1EMPHASIS MARK;1EXCLAMATION MARK;1COMMA;1QUESTION MARK;1ABBREVIATION MARK;1SMALL LETTER
      TURNED AYB;3AYB;3BEN;3GIM;3DA;3ECH;3ZA;3EH;3ET;3TO;3ZHE;3INI;3LIWN;3XEH;3CA;3KEN;3HO;3JA;
      3GHAD;3CHEH;3MEN;3YI;3NOW;3SHA;3VO;3CHA;3PEH;3JHEH;3RA;3SEH;3VEW;3TIWN;3REH;3CO;3YIWN;3PIWR;
      3KEH;3OH;3FEH;2LIGATURE ECH YIWN;2LETTER YI WITH STROKE;1FULL STOP;1HYPHEN;;;RIGHT-FACING
      ARMENIAN ETERNITY SIGN;LEFT-FACING ARMENIAN ETERNITY SIGN;ARMENIAN DRAM SIGN;;HEBREW ACCENT
      ETNAHTA;2SEGOL;2SHALSHELET;2ZAQEF QATAN;3GADOL;2TIPEHA;2REVIA;2ZARQA;2PASHTA;2YETIV;2TEVIR;
      2GERESH;3MUQDAM;2GERSHAYIM;2QARNEY PARA;2TELISHA GEDOLA;2PAZER;2ATNAH HAFUKH;2MUNAH;
      2MAHAPAKH;2MERKHA;3KEFULA;2DARGA;2QADMA;2TELISHA QETANA;2YERAH BEN YOMO;2OLE;2ILUY;2DEHI;
      2ZINOR;1MARK MASORA CIRCLE;1POINT SHEVA;2HATAF SEGOL;3PATAH;3QAMATS;2HIRIQ;2TSERE;2SEGOL;
      2PATAH;2QAMATS;2HOLAM;3HASER FOR VAV;2QUBUTS;2DAGESH OR MAPIQ;2METEG;1PUNCTUATION MAQAF;
      1POINT RAFE;1PUNCTUATION PASEQ;1POINT SHIN DOT;2SIN DOT;1PUNCTUATION SOF PASUQ;1MARK UPPER
      DOT;2LOWER DOT;1PUNCTUATION NUN HAFUKHA;1POINT QAMATS QATAN;;;;;;;;;1LETTER ALEF;2BET;
      2GIMEL;2DALET;2HE;2VAV;2ZAYIN;2HET;2TET;2YOD;2FINAL KAF;2KAF;2LAMED;2FINAL MEM;2MEM;2FINAL
      NUN;2NUN;2SAMEKH;2AYIN;2FINAL PE;2PE;2FINAL TSADI;2TSADI;2QOF;2RESH;2SHIN;2TAV;;;;;1YOD
      TRIANGLE;1LIGATURE YIDDISH DOUBLE VAV;3VAV YOD;3DOUBLE YOD;1PUNCTUATION GERESH;2GERSHAYIM"),
    (0x600, "ARABIC NUMBER SIGN;1SIGN SANAH;1FOOTNOTE MARKER;1SIGN SAFHA;2SAMVAT;1NUMBER MARK
      ABOVE;ARABIC-INDIC CUBE ROOT;1FOURTH ROOT;ARABIC RAY;ARABIC-INDIC PER MILLE SIGN;2TEN
      THOUSAND SIGN;AFGHANI SIGN;ARABIC COMMA;1DATE SEPARATOR;1POETIC VERSE SIGN;1SIGN MISRA;
      2SALLALLAHOU ALAYHE WASSALLAM;2ALAYHE ASSALLAM;2RAHMATULLAH ALAYHE;2RADI ALLAHOU ANHU;
      2TAKHALLUS;1SMALL HIGH TAH;3LIGATURE ALEF WITH LAM WITH YEH;3ZAIN;2FATHA;2DAMMA;2KASRA;
      1SEMICOLON;1LETTER MARK;1END OF TEXT MARK;1TRIPLE DOT PUNCTUATION MARK;1QUESTION MARK;
      1LETTER KASHMIRI YEH;2HAMZA;2ALEF WITH MADDA ABOVE;4HAMZA ABOVE;2WAW WITH HAMZA ABOVE;2ALEF
      WITH HAMZA BELOW;2YEH WITH HAMZA ABOVE;2ALEF;2BEH;2TEH MARBUTA;2TEH;2THEH;2JEEM;2HAH;2KHAH;
      2DAL;2THAL;2REH;2ZAIN;2SEEN;2SHEEN;2SAD;2DAD;2TAH;2ZAH;2AIN;2GHAIN;2KEHEH WITH TWO DOTS
      ABOVE;4THREE DOTS BELOW;2FARSI YEH WITH INVERTED V;5TWO DOTS ABOVE;5THREE DOTS ABOVE;
      1TATWEEL;1LETTER FEH;2QAF;2KAF;2LAM;2MEEM;2NOON;2HEH;2WAW;2ALEF MAKSURA;2YEH;1FATHATAN;
      1DAMMATAN;1KASRATAN;1FATHA;1DAMMA;1KASRA;1SHADDA;1SUKUN;1MADDAH ABOVE;1HAMZA ABOVE;2BELOW;
      1SUBSCRIPT ALEF;1INVERTED DAMMA;1MARK NOON GHUNNA;1ZWARAKAY;1VOWEL SIGN SMALL V ABOVE;
      3INVERTED SMALL V ABOVE;3DOT BELOW;1REVERSED DAMMA;1FATHA WITH TWO DOTS;1WAVY HAMZA BELOW;
      ARABIC-INDIC DIGIT ZERO;2ONE;2TWO;2THREE;2FOUR;2FIVE;2SIX;2SEVEN;2EIGHT;2NINE;ARABIC PERCENT
      SIGN;1DECIMAL SEPARATOR;1THOUSANDS SEPARATOR;1FIVE POINTED STAR;1LETTER DOTLESS BEH;3QAF;
      2SUPERSCRIPT ALEF;2ALEF WASLA;3WITH WAVY HAMZA ABOVE;6BELOW;2HIGH HAMZA;4ALEF;4WAW;2U WITH
      HAMZA ABOVE;2HIGH HAMZA YEH;2TTEH;2TTEHEH;2BEEH;2TEH WITH RING;4THREE DOTS ABOVE DOWNWARDS;
      2PEH;2TEHEH;2BEHEH;2HAH WITH HAMZA ABOVE;4TWO DOTS VERTICAL ABOVE;2NYEH;2DYEH;2HAH WITH THREE
      DOTS ABOVE;2TCHEH;2TCHEHEH;2DDAL;2DAL WITH RING;4DOT BELOW;6AND SMALL TAH;2DAHAL;2DDAHAL;
      2DUL;2DAL WITH THREE DOTS ABOVE DOWNWARDS;4FOUR DOTS ABOVE;2RREH;2REH WITH SMALL V;4RING;
      4DOT BELOW;4SMALL V BELOW;4DOT BELOW AND DOT ABOVE;4TWO DOTS ABOVE;2JEH;2REH WITH FOUR DOTS
      ABOVE;2SEEN WITH DOT BELOW AND DOT ABOVE;4THREE DOTS BELOW;7AND THREE DOTS ABOVE;2SAD WITH
      TWO DOTS BELOW;4THREE DOTS ABOVE;2TAH WITH THREE DOTS ABOVE;2AIN WITH THREE DOTS ABOVE;
      2DOTLESS FEH;2FEH WITH DOT MOVED BELOW;5BELOW;2VEH;2FEH WITH THREE DOTS BELOW;2PEHEH;2QAF
      WITH DOT ABOVE;4THREE DOTS ABOVE;2KEHEH;2SWASH KAF;2KAF WITH RING;4DOT ABOVE;2NG;2KAF WITH
      THREE DOTS BELOW;2GAF;3WITH RING;2NGOEH;2GAF WITH TWO DOTS BELOW;2GUEH;2GAF WITH THREE DOTS
      ABOVE;2LAM WITH SMALL V;4DOT ABOVE;4THREE DOTS ABOVE;6BELOW;2NOON WITH DOT BELOW;3GHUNNA;
      2RNOON;2NOON WITH RING;4THREE DOTS ABOVE;2HEH DOACHASHMEE;2TCHEH WITH DOT ABOVE;2HEH WITH YEH
      ABOVE;3GOAL;4WITH HAMZA ABOVE;2TEH MARBUTA GOAL;2WAW WITH RING;2KIRGHIZ OE;2OE;2U;2YU;
      2KIRGHIZ YU;2WAW WITH TWO DOTS ABOVE;2VE;2FARSI YEH;2YEH WITH TAIL;4SMALL V;2WAW WITH DOT
      ABOVE;2E;2YEH WITH THREE DOTS BELOW;3BARREE;4WITH HAMZA ABOVE;1FULL STOP;1LETTER AE;1SMALL
      HIGH LIGATURE SAD WITH LAM WITH ALEF MAKSURA;4QAF WITH LAM WITH ALEF MAKSURA;3MEEM INITIAL
      FORM;3LAM ALEF;3JEEM;3THREE DOTS;3SEEN;1END OF AYAH;1START OF RUB EL HIZB;1SMALL HIGH ROUNDED
      ZERO;3UPRIGHT RECTANGULAR ZERO;3DOTLESS HEAD OF KHAH;3MEEM ISOLATED FORM;2LOW SEEN;2HIGH
      MADDA;2WAW;2YEH;2HIGH YEH;3NOON;1PLACE OF SAJDAH;1EMPTY CENTRE LOW STOP;3HIGH STOP;1ROUNDED
      HIGH STOP WITH FILLED CENTRE;1SMALL LOW MEEM;1LETTER DAL WITH INVERTED V;2REH WITH INVERTED
      V;EXTENDED ARABIC-INDIC DIGIT ZERO;3ONE;3TWO;3THREE;3FOUR;3FIVE;3SIX;3SEVEN;3EIGHT;3NINE;
      ARABIC LETTER SHEEN WITH DOT BELOW;2DAD WITH DOT BELOW;2GHAIN WITH DOT BELOW;1SIGN SINDHI
      AMPERSAND;3POSTPOSITION MEN;1LETTER HEH WITH INVERTED V"),
    (0x900, "DEVANAGARI SIGN INVERTED CANDRABINDU;2CANDRABINDU;2ANUSVARA;2VISARGA;1LETTER SHORT A;
      2A;2AA;2I;2II;2U;2UU;2VOCALIC R;3L;2CANDRA E;2SHORT E;2E;2AI;2CANDRA O;2SHORT O;2O;2AU;2KA;
      2KHA;2GA;2GHA;2NGA;2CA;2CHA;2JA;2JHA;2NYA;2TTA;2TTHA;2DDA;2DDHA;2NNA;2TA;2THA;2DA;2DHA;2NA;
      2NNNA;2PA;2PHA;2BA;2BHA;2MA;2YA;2RA;2RRA;2LA;2LLA;2LLLA;2VA;2SHA;2SSA;2SA;2HA;1VOWEL SIGN OE;
      3OOE;1SIGN NUKTA;2AVAGRAHA;1VOWEL SIGN AA;3I;3II;3U;3UU;3VOCALIC R;4RR;3CANDRA E;3SHORT E;
      3E;3AI;3CANDRA O;3SHORT O;3O;3AU;1SIGN VIRAMA;1VOWEL SIGN PRISHTHAMATRA E;3AW;1OM;1STRESS
      SIGN UDATTA;3ANUDATTA;1GRAVE ACCENT;1ACUTE ACCENT;1VOWEL SIGN CANDRA LONG E;3UE;3UUE;1LETTER
      QA;2KHHA;2GHHA;2ZA;2DDDHA;2RHA;2FA;2YYA;2VOCALIC RR;3LL;1VOWEL SIGN VOCALIC L;4LL;1DANDA;
      1DOUBLE DANDA;1DIGIT ZERO;2ONE;2TWO;2THREE;2FOUR;2FIVE;2SIX;2SEVEN;2EIGHT;2NINE;
      1ABBREVIATION SIGN;1SIGN HIGH SPACING DOT;1LETTER CANDRA A;2OE;2OOE;2AW;2UE;2UUE;2MARWARI
      DDA;2ZHA;2HEAVY YA;2GGA;2JJA;2GLOTTAL STOP;2DDDA;2BBA"),
    (0xe01, "THAI CHARACTER KO KAI;2KHO KHAI;3KHUAT;3KHWAI;3KHON;3RAKHANG;2NGO NGU;2CHO CHAN;
      3CHING;3CHANG;2SO SO;2CHO CHOE;2YO YING;2DO CHADA;2TO PATAK;2THO THAN;3NANGMONTHO;3PHUTHAO;
      2NO NEN;2DO DEK;2TO TAO;2THO THUNG;3THAHAN;3THONG;2NO NU;2BO BAIMAI;2PO PLA;2PHO PHUNG;2FO
      FA;2PHO PHAN;2FO FAN;2PHO SAMPHAO;2MO MA;2YO YAK;2RO RUA;2RU;2LO LING;2LU;2WO WAEN;2SO SALA;
      3RUSI;3SUA;2HO HIP;2LO CHULA;2O ANG;2HO NOKHUK;2PAIYANNOI;2SARA A;2MAI HAN-AKAT;2SARA AA;
      3AM;3I;3II;3UE;3UEE;3U;3UU;2PHINTHU;;;;;1CURRENCY SYMBOL BAHT;1CHARACTER SARA E;3AE;3O;3AI
      MAIMUAN;4MAIMALAI;2LAKKHANGYAO;2MAIYAMOK;2MAITAIKHU;2MAI EK;3THO;3TRI;3CHATTAWA;
      2THANTHAKHAT;2NIKHAHIT;2YAMAKKAN;2FONGMAN;1DIGIT ZERO;2ONE;2TWO;2THREE;2FOUR;2FIVE;2SIX;
      2SEVEN;2EIGHT;2NINE;1CHARACTER ANGKHANKHU;2KHOMUT"),
    (0x10a0, "GEORGIAN CAPITAL LETTER AN;3BAN;3GAN;3DON;3EN;3VIN;3ZEN;3TAN;3IN;3KAN;3LAS;3MAN;
      3NAR;3ON;3PAR;3ZHAR;3RAE;3SAN;3TAR;3UN;3PHAR;3KHAR;3GHAN;3QAR;3SHIN;3CHIN;3CAN;3JIL;3CIL;
      3CHAR;3XAN;3JHAN;3HAE;3HE;3HIE;3WE;3HAR;3HOE;;3YN;;;;;;3AEN;;;1LETTER AN;2BAN;2GAN;2DON;2EN;
      2VIN;2ZEN;2TAN;2IN;2KAN;2LAS;2MAN;2NAR;2ON;2PAR;2ZHAR;2RAE;2SAN;2TAR;2UN;2PHAR;2KHAR;2GHAN;
      2QAR;2SHIN;2CHIN;2CAN;2JIL;2CIL;2CHAR;2XAN;2JHAN;2HAE;2HE;2HIE;2WE;2HAR;2HOE;2FI;2YN;2ELIFI;
      2TURNED GAN;2AIN;1PARAGRAPH SEPARATOR;MODIFIER LETTER GEORGIAN NAR;GEORGIAN LETTER AEN;2HARD
      SIGN;2LABIAL SIGN"),
    (0x1e00, "LATIN CAPITAL LETTER A WITH RING BELOW;1SMALL LETTER A WITH RING BELOW;1CAPITAL
      LETTER B WITH DOT ABOVE;1SMALL LETTER B WITH DOT ABOVE;1CAPITAL LETTER B WITH DOT BELOW;
      1SMALL LETTER B WITH DOT BELOW;1CAPITAL LETTER B WITH LINE BELOW;1SMALL LETTER B WITH LINE
      BELOW;1CAPITAL LETTER C WITH CEDILLA AND ACUTE;1SMALL LETTER C WITH CEDILLA AND ACUTE;
      1CAPITAL LETTER D WITH DOT ABOVE;1SMALL LETTER D WITH DOT ABOVE;1CAPITAL LETTER D WITH DOT
      BELOW;1SMALL LETTER D WITH DOT BELOW;1CAPITAL LETTER D WITH LINE BELOW;1SMALL LETTER D WITH
      LINE BELOW;1CAPITAL LETTER D WITH CEDILLA;1SMALL LETTER D WITH CEDILLA;1CAPITAL LETTER D WITH
      CIRCUMFLEX BELOW;1SMALL LETTER D WITH CIRCUMFLEX BELOW;1CAPITAL LETTER E WITH MACRON AND
      GRAVE;1SMALL LETTER E WITH MACRON AND GRAVE;1CAPITAL LETTER E WITH MACRON AND ACUTE;1SMALL
      LETTER E WITH MACRON AND ACUTE;1CAPITAL LETTER E WITH CIRCUMFLEX BELOW;1SMALL LETTER E WITH
      CIRCUMFLEX BELOW;1CAPITAL LETTER E WITH TILDE BELOW;1SMALL LETTER E WITH TILDE BELOW;
      1CAPITAL LETTER E WITH CEDILLA AND BREVE;1SMALL LETTER E WITH CEDILLA AND BREVE;1CAPITAL
      LETTER F WITH DOT ABOVE;1SMALL LETTER F WITH DOT ABOVE;1CAPITAL LETTER G WITH MACRON;1SMALL
      LETTER G WITH MACRON;1CAPITAL LETTER H WITH DOT ABOVE;1SMALL LETTER H WITH DOT ABOVE;
      1CAPITAL LETTER H WITH DOT BELOW;1SMALL LETTER H WITH DOT BELOW;1CAPITAL LETTER H WITH
      DIAERESIS;1SMALL LETTER H WITH DIAERESIS;1CAPITAL LETTER H WITH CEDILLA;1SMALL LETTER H WITH
      CEDILLA;1CAPITAL LETTER H WITH BREVE BELOW;1SMALL LETTER H WITH BREVE BELOW;1CAPITAL LETTER I
      WITH TILDE BELOW;1SMALL LETTER I WITH TILDE BELOW;1CAPITAL LETTER I WITH DIAERESIS AND ACUTE;
      1SMALL LETTER I WITH DIAERESIS AND ACUTE;1CAPITAL LETTER K WITH ACUTE;1SMALL LETTER K WITH
      ACUTE;1CAPITAL LETTER K WITH DOT BELOW;1SMALL LETTER K WITH DOT BELOW;1CAPITAL LETTER K WITH
      LINE BELOW;1SMALL LETTER K WITH LINE BELOW;1CAPITAL LETTER L WITH DOT BELOW;1SMALL LETTER L
      WITH DOT BELOW;1CAPITAL LETTER L WITH DOT BELOW AND MACRON;1SMALL LETTER L WITH DOT BELOW AND
      MACRON;1CAPITAL LETTER L WITH LINE BELOW;1SMALL LETTER L WITH LINE BELOW;1CAPITAL LETTER L
      WITH CIRCUMFLEX BELOW;1SMALL LETTER L WITH CIRCUMFLEX BELOW;1CAPITAL LETTER M WITH ACUTE;
      1SMALL LETTER M WITH ACUTE;1CAPITAL LETTER M WITH DOT ABOVE;1SMALL LETTER M WITH DOT ABOVE;
      1CAPITAL LETTER M WITH DOT BELOW;1SMALL LETTER M WITH DOT BELOW;1CAPITAL LETTER N WITH DOT
      ABOVE;1SMALL LETTER N WITH DOT ABOVE;1CAPITAL LETTER N WITH DOT BELOW;1SMALL LETTER N WITH
      DOT BELOW;1CAPITAL LETTER N WITH LINE BELOW;1SMALL LETTER N WITH LINE BELOW;1CAPITAL LETTER N
      WITH CIRCUMFLEX BELOW;1SMALL LETTER N WITH CIRCUMFLEX BELOW;1CAPITAL LETTER O WITH TILDE AND
      ACUTE;1SMALL LETTER O WITH TILDE AND ACUTE;1CAPITAL LETTER O WITH TILDE AND DIAERESIS;1SMALL
      LETTER O WITH TILDE AND DIAERESIS;1CAPITAL LETTER O WITH MACRON AND GRAVE;1SMALL LETTER O
      WITH MACRON AND GRAVE;1CAPITAL LETTER O WITH MACRON AND ACUTE;1SMALL LETTER O WITH MACRON AND
      ACUTE;1CAPITAL LETTER P WITH ACUTE;1SMALL LETTER P WITH ACUTE;1CAPITAL LETTER P WITH DOT
      ABOVE;1SMALL LETTER P WITH DOT ABOVE;1CAPITAL LETTER R WITH DOT ABOVE;1SMALL LETTER R WITH
      DOT ABOVE;1CAPITAL LETTER R WITH DOT BELOW;1SMALL LETTER R WITH DOT BELOW;1CAPITAL LETTER R
      WITH DOT BELOW AND MACRON;1SMALL LETTER R WITH DOT BELOW AND MACRON;1CAPITAL LETTER R WITH
      LINE BELOW;1SMALL LETTER R WITH LINE BELOW;1CAPITAL LETTER S WITH DOT ABOVE;1SMALL LETTER S
      WITH DOT ABOVE;1CAPITAL LETTER S WITH DOT BELOW;1SMALL LETTER S WITH DOT BELOW;1CAPITAL
      LETTER S WITH ACUTE AND DOT ABOVE;1SMALL LETTER S WITH ACUTE AND DOT ABOVE;1CAPITAL LETTER S
      WITH CARON AND DOT ABOVE;1SMALL LETTER S WITH CARON AND DOT ABOVE;1CAPITAL LETTER S WITH DOT
      BELOW AND DOT ABOVE;1SMALL LETTER S WITH DOT BELOW AND DOT ABOVE;1CAPITAL LETTER T WITH DOT
      ABOVE;1SMALL LETTER T WITH DOT ABOVE;1CAPITAL LETTER T WITH DOT BELOW;1SMALL LETTER T WITH
      DOT BELOW;1CAPITAL LETTER T WITH LINE BELOW;1SMALL LETTER T WITH LINE BELOW;1CAPITAL LETTER T
      WITH CIRCUMFLEX BELOW;1SMALL LETTER T WITH CIRCUMFLEX BELOW;1CAPITAL LETTER U WITH DIAERESIS
      BELOW;1SMALL LETTER U WITH DIAERESIS BELOW;1CAPITAL LETTER U WITH TILDE BELOW;1SMALL LETTER U
      WITH TILDE BELOW;1CAPITAL LETTER U WITH CIRCUMFLEX BELOW;1SMALL LETTER U WITH CIRCUMFLEX
      BELOW;1CAPITAL LETTER U WITH TILDE AND ACUTE;1SMALL LETTER U WITH TILDE AND ACUTE;1CAPITAL
      LETTER U WITH MACRON AND DIAERESIS;1SMALL LETTER U WITH MACRON AND DIAERESIS;1CAPITAL LETTER
      V WITH TILDE;1SMALL LETTER V WITH TILDE;1CAPITAL LETTER V WITH DOT BELOW;1SMALL LETTER V WITH
      DOT BELOW;1CAPITAL LETTER W WITH GRAVE;1SMALL LETTER W WITH GRAVE;1CAPITAL LETTER W WITH
      ACUTE;1SMALL LETTER W WITH ACUTE;1CAPITAL LETTER W WITH DIAERESIS;1SMALL LETTER W WITH
      DIAERESIS;1CAPITAL LETTER W WITH DOT ABOVE;1SMALL LETTER W WITH DOT ABOVE;1CAPITAL LETTER W
      WITH DOT BELOW;1SMALL LETTER W WITH DOT BELOW;1CAPITAL LETTER X WITH DOT ABOVE;1SMALL LETTER
      X WITH DOT ABOVE;1CAPITAL LETTER X WITH DIAERESIS;1SMALL LETTER X WITH DIAERESIS;1CAPITAL
      LETTER Y WITH DOT ABOVE;1SMALL LETTER Y WITH DOT ABOVE;1CAPITAL LETTER Z WITH CIRCUMFLEX;
      1SMALL LETTER Z WITH CIRCUMFLEX;1CAPITAL LETTER Z WITH DOT BELOW;1SMALL LETTER Z WITH DOT
      BELOW;1CAPITAL LETTER Z WITH LINE BELOW;1SMALL LETTER Z WITH LINE BELOW;3H WITH LINE BELOW;
      3T WITH DIAERESIS;3W WITH RING ABOVE;3Y WITH RING ABOVE;3A WITH RIGHT HALF RING;3LONG S WITH
      DOT ABOVE;6DIAGONAL STROKE;6HIGH STROKE;1CAPITAL LETTER SHARP S;1SMALL LETTER DELTA;1CAPITAL
      LETTER A WITH DOT BELOW;1SMALL LETTER A WITH DOT BELOW;1CAPITAL LETTER A WITH HOOK ABOVE;
      1SMALL LETTER A WITH HOOK ABOVE;1CAPITAL LETTER A WITH CIRCUMFLEX AND ACUTE;1SMALL LETTER A
      WITH CIRCUMFLEX AND ACUTE;1CAPITAL LETTER A WITH CIRCUMFLEX AND GRAVE;1SMALL LETTER A WITH
      CIRCUMFLEX AND GRAVE;1CAPITAL LETTER A WITH CIRCUMFLEX AND HOOK ABOVE;1SMALL LETTER A WITH
      CIRCUMFLEX AND HOOK ABOVE;1CAPITAL LETTER A WITH CIRCUMFLEX AND TILDE;1SMALL LETTER A WITH
      CIRCUMFLEX AND TILDE;1CAPITAL LETTER A WITH CIRCUMFLEX AND DOT BELOW;1SMALL LETTER A WITH
      CIRCUMFLEX AND DOT BELOW;1CAPITAL LETTER A WITH BREVE AND ACUTE;1SMALL LETTER A WITH BREVE
      AND ACUTE;1CAPITAL LETTER A WITH BREVE AND GRAVE;1SMALL LETTER A WITH BREVE AND GRAVE;
      1CAPITAL LETTER A WITH BREVE AND HOOK ABOVE;1SMALL LETTER A WITH BREVE AND HOOK ABOVE;
      1CAPITAL LETTER A WITH BREVE AND TILDE;1SMALL LETTER A WITH BREVE AND TILDE;1CAPITAL LETTER A
      WITH BREVE AND DOT BELOW;1SMALL LETTER A WITH BREVE AND DOT BELOW;1CAPITAL LETTER E WITH DOT
      BELOW;1SMALL LETTER E WITH DOT BELOW;1CAPITAL LETTER E WITH HOOK ABOVE;1SMALL LETTER E WITH
      HOOK ABOVE;1CAPITAL LETTER E WITH TILDE;1SMALL LETTER E WITH TILDE;1CAPITAL LETTER E WITH
      CIRCUMFLEX AND ACUTE;1SMALL LETTER E WITH CIRCUMFLEX AND ACUTE;1CAPITAL LETTER E WITH
      CIRCUMFLEX AND GRAVE;1SMALL LETTER E WITH CIRCUMFLEX AND GRAVE;1CAPITAL LETTER E WITH
      CIRCUMFLEX AND HOOK ABOVE;1SMALL LETTER E WITH CIRCUMFLEX AND HOOK ABOVE;1CAPITAL LETTER E
      WITH CIRCUMFLEX AND TILDE;1SMALL LETTER E WITH CIRCUMFLEX AND TILDE;1CAPITAL LETTER E WITH
      CIRCUMFLEX AND DOT BELOW;1SMALL LETTER E WITH CIRCUMFLEX AND DOT BELOW;1CAPITAL LETTER I WITH
      HOOK ABOVE;1SMALL LETTER I WITH HOOK ABOVE;1CAPITAL LETTER I WITH DOT BELOW;1SMALL LETTER I
      WITH DOT BELOW;1CAPITAL LETTER O WITH DOT BELOW;1SMALL LETTER O WITH DOT BELOW;1CAPITAL
      LETTER O WITH HOOK ABOVE;1SMALL LETTER O WITH HOOK ABOVE;1CAPITAL LETTER O WITH CIRCUMFLEX
      AND ACUTE;1SMALL LETTER O WITH CIRCUMFLEX AND ACUTE;1CAPITAL LETTER O WITH CIRCUMFLEX AND
      GRAVE;1SMALL LETTER O WITH CIRCUMFLEX AND GRAVE;1CAPITAL LETTER O WITH CIRCUMFLEX AND HOOK
      ABOVE;1SMALL LETTER O WITH CIRCUMFLEX AND HOOK ABOVE;1CAPITAL LETTER O WITH CIRCUMFLEX AND
      TILDE;1SMALL LETTER O WITH CIRCUMFLEX AND TILDE;1CAPITAL LETTER O WITH CIRCUMFLEX AND DOT
      BELOW;1SMALL LETTER O WITH CIRCUMFLEX AND DOT BELOW;1CAPITAL LETTER O WITH HORN AND ACUTE;
      1SMALL LETTER O WITH HORN AND ACUTE;1CAPITAL LETTER O WITH HORN AND GRAVE;1SMALL LETTER O
      WITH HORN AND GRAVE;1CAPITAL LETTER O WITH HORN AND HOOK ABOVE;1SMALL LETTER O WITH HORN AND
      HOOK ABOVE;1CAPITAL LETTER O WITH HORN AND TILDE;1SMALL LETTER O WITH HORN AND TILDE;
      1CAPITAL LETTER O WITH HORN AND DOT BELOW;1SMALL LETTER O WITH HORN AND DOT BELOW;1CAPITAL
      LETTER U WITH DOT BELOW;1SMALL LETTER U WITH DOT BELOW;1CAPITAL LETTER U WITH HOOK ABOVE;
      1SMALL LETTER U WITH HOOK ABOVE;1CAPITAL LETTER U WITH HORN AND ACUTE;1SMALL LETTER U WITH
      HORN AND ACUTE;1CAPITAL LETTER U WITH HORN AND GRAVE;1SMALL LETTER U WITH HORN AND GRAVE;
      1CAPITAL LETTER U WITH HORN AND HOOK ABOVE;1SMALL LETTER U WITH HORN AND HOOK ABOVE;1CAPITAL
      LETTER U WITH HORN AND TILDE;1SMALL LETTER U WITH HORN AND TILDE;1CAPITAL LETTER U WITH HORN
      AND DOT BELOW;1SMALL LETTER U WITH HORN AND DOT BELOW;1CAPITAL LETTER Y WITH GRAVE;1SMALL
      LETTER Y WITH GRAVE;1CAPITAL LETTER Y WITH DOT BELOW;1SMALL LETTER Y WITH DOT BELOW;1CAPITAL
      LETTER Y WITH HOOK ABOVE;1SMALL LETTER Y WITH HOOK ABOVE;1CAPITAL LETTER Y WITH TILDE;1SMALL
      LETTER Y WITH TILDE;1CAPITAL LETTER MIDDLE-WELSH LL;1SMALL LETTER MIDDLE-WELSH LL;1CAPITAL
      LETTER MIDDLE-WELSH V;1SMALL LETTER MIDDLE-WELSH V;1CAPITAL LETTER Y WITH LOOP;1SMALL LETTER
      Y WITH LOOP;GREEK SMALL LETTER ALPHA WITH PSILI;5DASIA;5PSILI AND VARIA;5DASIA AND VARIA;
      5PSILI AND OXIA;5DASIA AND OXIA;5PSILI AND PERISPOMENI;5DASIA AND PERISPOMENI;1CAPITAL LETTER
      ALPHA WITH PSILI;5DASIA;5PSILI AND VARIA;5DASIA AND VARIA;5PSILI AND OXIA;5DASIA AND OXIA;
      5PSILI AND PERISPOMENI;5DASIA AND PERISPOMENI;1SMALL LETTER EPSILON WITH PSILI;5DASIA;5PSILI
      AND VARIA;5DASIA AND VARIA;5PSILI AND OXIA;5DASIA AND OXIA;;;1CAPITAL LETTER EPSILON WITH
      PSILI;5DASIA;5PSILI AND VARIA;5DASIA AND VARIA;5PSILI AND OXIA;5DASIA AND OXIA;;;1SMALL
      LETTER ETA WITH PSILI;5DASIA;5PSILI AND VARIA;5DASIA AND VARIA;5PSILI AND OXIA;5DASIA AND
      OXIA;5PSILI AND PERISPOMENI;5DASIA AND PERISPOMENI;1CAPITAL LETTER ETA WITH PSILI;5DASIA;
      5PSILI AND VARIA;5DASIA AND VARIA;5PSILI AND OXIA;5DASIA AND OXIA;5PSILI AND PERISPOMENI;
      5DASIA AND PERISPOMENI;1SMALL LETTER IOTA WITH PSILI;5DASIA;5PSILI AND VARIA;5DASIA AND
      VARIA;5PSILI AND OXIA;5DASIA AND OXIA;5PSILI AND PERISPOMENI;5DASIA AND PERISPOMENI;1CAPITAL
      LETTER IOTA WITH PSILI;5DASIA;5PSILI AND VARIA;5DASIA AND VARIA;5PSILI AND OXIA;5DASIA AND
      OXIA;5PSILI AND PERISPOMENI;5DASIA AND PERISPOMENI;1SMALL LETTER OMICRON WITH PSILI;5DASIA;
      5PSILI AND VARIA;5DASIA AND VARIA;5PSILI AND OXIA;5DASIA AND OXIA;;;1CAPITAL LETTER OMICRON
      WITH PSILI;5DASIA;5PSILI AND VARIA;5DASIA AND VARIA;5PSILI AND OXIA;5DASIA AND OXIA;;;1SMALL
      LETTER UPSILON WITH PSILI;5DASIA;5PSILI AND VARIA;5DASIA AND VARIA;5PSILI AND OXIA;5DASIA AND
      OXIA;5PSILI AND PERISPOMENI;5DASIA AND PERISPOMENI;;1CAPITAL LETTER UPSILON WITH DASIA;;6AND
      VARIA;;7OXIA;;7PERISPOMENI;1SMALL LETTER OMEGA WITH PSILI;5DASIA;5PSILI AND VARIA;5DASIA AND
      VARIA;5PSILI AND OXIA;5DASIA AND OXIA;5PSILI AND PERISPOMENI;5DASIA AND PERISPOMENI;1CAPITAL
      LETTER OMEGA WITH PSILI;5DASIA;5PSILI AND VARIA;5DASIA AND VARIA;5PSILI AND OXIA;5DASIA AND
      OXIA;5PSILI AND PERISPOMENI;5DASIA AND PERISPOMENI;1SMALL LETTER ALPHA WITH VARIA;5OXIA;
      3EPSILON WITH VARIA;5OXIA;3ETA WITH VARIA;5OXIA;3IOTA WITH VARIA;5OXIA;3OMICRON WITH VARIA;
      5OXIA;3UPSILON WITH VARIA;5OXIA;3OMEGA WITH VARIA;5OXIA;;;3ALPHA WITH PSILI AND
      YPOGEGRAMMENI;5DASIA AND YPOGEGRAMMENI;5PSILI AND VARIA AND YPOGEGRAMMENI;5DASIA AND VARIA
      AND YPOGEGRAMMENI;5PSILI AND OXIA AND YPOGEGRAMMENI;5DASIA AND OXIA AND YPOGEGRAMMENI;5PSILI
      AND PERISPOMENI AND YPOGEGRAMMENI;5DASIA AND PERISPOMENI AND YPOGEGRAMMENI;1CAPITAL LETTER
      ALPHA WITH PSILI AND PROSGEGRAMMENI;5DASIA AND PROSGEGRAMMENI;5PSILI AND VARIA AND
      PROSGEGRAMMENI;5DASIA AND VARIA AND PROSGEGRAMMENI;5PSILI AND OXIA AND PROSGEGRAMMENI;5DASIA
      AND OXIA AND PROSGEGRAMMENI;5PSILI AND PERISPOMENI AND PROSGEGRAMMENI;5DASIA AND PERISPOMENI
      AND PROSGEGRAMMENI;1SMALL LETTER ETA WITH PSILI AND YPOGEGRAMMENI;5DASIA AND YPOGEGRAMMENI;
      5PSILI AND VARIA AND YPOGEGRAMMENI;5DASIA AND VARIA AND YPOGEGRAMMENI;5PSILI AND OXIA AND
      YPOGEGRAMMENI;5DASIA AND OXIA AND YPOGEGRAMMENI;5PSILI AND PERISPOMENI AND YPOGEGRAMMENI;
      5DASIA AND PERISPOMENI AND YPOGEGRAMMENI;1CAPITAL LETTER ETA WITH PSILI AND PROSGEGRAMMENI;
      5DASIA AND PROSGEGRAMMENI;5PSILI AND VARIA AND PROSGEGRAMMENI;5DASIA AND VARIA AND
      PROSGEGRAMMENI;5PSILI AND OXIA AND PROSGEGRAMMENI;5DASIA AND OXIA AND PROSGEGRAMMENI;5PSILI
      AND PERISPOMENI AND PROSGEGRAMMENI;5DASIA AND PERISPOMENI AND PROSGEGRAMMENI;1SMALL LETTER
      OMEGA WITH PSILI AND YPOGEGRAMMENI;5DASIA AND YPOGEGRAMMENI;5PSILI AND VARIA AND
      YPOGEGRAMMENI;5DASIA AND VARIA AND YPOGEGRAMMENI;5PSILI AND OXIA AND YPOGEGRAMMENI;5DASIA AND
      OXIA AND YPOGEGRAMMENI;5PSILI AND PERISPOMENI AND YPOGEGRAMMENI;5DASIA AND PERISPOMENI AND
      YPOGEGRAMMENI;1CAPITAL LETTER OMEGA WITH PSILI AND PROSGEGRAMMENI;5DASIA AND PROSGEGRAMMENI;
      5PSILI AND VARIA AND PROSGEGRAMMENI;5DASIA AND VARIA AND PROSGEGRAMMENI;5PSILI AND OXIA AND
      PROSGEGRAMMENI;5DASIA AND OXIA AND PROSGEGRAMMENI;5PSILI AND PERISPOMENI AND PROSGEGRAMMENI;
      5DASIA AND PERISPOMENI AND PROSGEGRAMMENI;1SMALL LETTER ALPHA WITH VRACHY;5MACRON;5VARIA AND
      YPOGEGRAMMENI;5YPOGEGRAMMENI;5OXIA AND YPOGEGRAMMENI;;5PERISPOMENI;6AND YPOGEGRAMMENI;
      1CAPITAL LETTER ALPHA WITH VRACHY;5MACRON;5VARIA;5OXIA;5PROSGEGRAMMENI;1KORONIS;
      1PROSGEGRAMMENI;1PSILI;1PERISPOMENI;1DIALYTIKA AND PERISPOMENI;1SMALL LETTER ETA WITH VARIA
      AND YPOGEGRAMMENI;5YPOGEGRAMMENI;5OXIA AND YPOGEGRAMMENI;;5PERISPOMENI;6AND YPOGEGRAMMENI;
      1CAPITAL LETTER EPSILON WITH VARIA;5OXIA;3ETA WITH VARIA;5OXIA;5PROSGEGRAMMENI;1PSILI AND
      VARIA;3OXIA;3PERISPOMENI;1SMALL LETTER IOTA WITH VRACHY;5MACRON;5DIALYTIKA AND VARIA;7OXIA;;
      ;5PERISPOMENI;5DIALYTIKA AND PERISPOMENI;1CAPITAL LETTER IOTA WITH VRACHY;5MACRON;5VARIA;
      5OXIA;;1DASIA AND VARIA;3OXIA;3PERISPOMENI;1SMALL LETTER UPSILON WITH VRACHY;5MACRON;
      5DIALYTIKA AND VARIA;7OXIA;3RHO WITH PSILI;5DASIA;3UPSILON WITH PERISPOMENI;5DIALYTIKA AND
      PERISPOMENI;1CAPITAL LETTER UPSILON WITH VRACHY;5MACRON;5VARIA;5OXIA;3RHO WITH DASIA;
      1DIALYTIKA AND VARIA;3OXIA;1VARIA;;;1SMALL LETTER OMEGA WITH VARIA AND YPOGEGRAMMENI;
      5YPOGEGRAMMENI;5OXIA AND YPOGEGRAMMENI;;5PERISPOMENI;6AND YPOGEGRAMMENI;1CAPITAL LETTER
      OMICRON WITH VARIA;5OXIA;3OMEGA WITH VARIA;5OXIA;5PROSGEGRAMMENI;1OXIA;1DASIA"),
    (0x3000, "IDEOGRAPHIC SPACE;1COMMA;1FULL STOP;DITTO MARK;JAPANESE INDUSTRIAL STANDARD SYMBOL;
      IDEOGRAPHIC ITERATION MARK;1CLOSING MARK;1NUMBER ZERO;LEFT ANGLE BRACKET;RIGHT ANGLE BRACKET;
      LEFT DOUBLE ANGLE BRACKET;RIGHT DOUBLE ANGLE BRACKET;LEFT CORNER BRACKET;RIGHT CORNER
      BRACKET;LEFT WHITE CORNER BRACKET;RIGHT WHITE CORNER BRACKET;LEFT BLACK LENTICULAR BRACKET;
      RIGHT BLACK LENTICULAR BRACKET;POSTAL MARK;GETA MARK;LEFT TORTOISE SHELL BRACKET;RIGHT
      TORTOISE SHELL BRACKET;LEFT WHITE LENTICULAR BRACKET;RIGHT WHITE LENTICULAR BRACKET;LEFT
      WHITE TORTOISE SHELL BRACKET;RIGHT WHITE TORTOISE SHELL BRACKET;LEFT WHITE SQUARE BRACKET;
      RIGHT WHITE SQUARE BRACKET;WAVE DASH;REVERSED DOUBLE PRIME QUOTATION MARK;DOUBLE PRIME
      QUOTATION MARK;LOW DOUBLE PRIME QUOTATION MARK;POSTAL MARK FACE;HANGZHOU NUMERAL ONE;2TWO;
      2THREE;2FOUR;2FIVE;2SIX;2SEVEN;2EIGHT;2NINE;IDEOGRAPHIC LEVEL TONE MARK;1RISING TONE MARK;
      1DEPARTING TONE MARK;1ENTERING TONE MARK;HANGUL SINGLE DOT TONE MARK;1DOUBLE DOT TONE MARK;
      WAVY DASH;VERTICAL KANA REPEAT MARK;3WITH VOICED SOUND MARK;3MARK UPPER HALF;3WITH VOICED
      SOUND MARK UPPER HALF;3MARK LOWER HALF;CIRCLED POSTAL MARK;IDEOGRAPHIC TELEGRAPH LINE FEED
      SEPARATOR SYMBOL;HANGZHOU NUMERAL TEN;2TWENTY;2THIRTY;VERTICAL IDEOGRAPHIC ITERATION MARK;
      MASU MARK;PART ALTERNATION MARK;IDEOGRAPHIC VARIATION INDICATOR;1HALF FILL SPACE;;HIRAGANA
      LETTER SMALL A;2A;2SMALL I;2I;2SMALL U;2U;2SMALL E;2E;2SMALL O;2O;2KA;2GA;2KI;2GI;2KU;2GU;
      2KE;2GE;2KO;2GO;2SA;2ZA;2SI;2ZI;2SU;2ZU;2SE;2ZE;2SO;2ZO;2TA;2DA;2TI;2DI;2SMALL TU;2TU;2DU;
      2TE;2DE;2TO;2DO;2NA;2NI;2NU;2NE;2NO;2HA;2BA;2PA;2HI;2BI;2PI;2HU;2BU;2PU;2HE;2BE;2PE;2HO;2BO;
      2PO;2MA;2MI;2MU;2ME;2MO;2SMALL YA;2YA;2SMALL YU;2YU;2SMALL YO;2YO;2RA;2RI;2RU;2RE;2RO;2SMALL
      WA;2WA;2WI;2WE;2WO;2N;2VU;2SMALL KA;3KE;;;COMBINING KATAKANA-HIRAGANA VOICED SOUND MARK;
      2SEMI-VOICED SOUND MARK;KATAKANA-HIRAGANA VOICED SOUND MARK;1SEMI-VOICED SOUND MARK;HIRAGANA
      ITERATION MARK;1VOICED ITERATION MARK;1DIGRAPH YORI;KATAKANA-HIRAGANA DOUBLE HYPHEN;KATAKANA
      LETTER SMALL A;2A;2SMALL I;2I;2SMALL U;2U;2SMALL E;2E;2SMALL O;2O;2KA;2GA;2KI;2GI;2KU;2GU;
      2KE;2GE;2KO;2GO;2SA;2ZA;2SI;2ZI;2SU;2ZU;2SE;2ZE;2SO;2ZO;2TA;2DA;2TI;2DI;2SMALL TU;2TU;2DU;
      2TE;2DE;2TO;2DO;2NA;2NI;2NU;2NE;2NO;2HA;2BA;2PA;2HI;2BI;2PI;2HU;2BU;2PU;2HE;2BE;2PE;2HO;2BO;
      2PO;2MA;2MI;2MU;2ME;2MO;2SMALL YA;2YA;2SMALL YU;2YU;2SMALL YO;2YO;2RA;2RI;2RU;2RE;2RO;2SMALL
      WA;2WA;2WI;2WE;2WO;2N;2VU;2SMALL KA;3KE;2VA;2VI;2VE;2VO;1MIDDLE DOT;KATAKANA-HIRAGANA
      PROLONGED SOUND MARK;KATAKANA ITERATION MARK;1VOICED ITERATION MARK;1DIGRAPH KOTO"),
    (0xfb00, "LATIN SMALL LIGATURE FF;3FI;3FL;3FFI;3FFL;3LONG S T;3ST"),
    (0xfb13, "ARMENIAN SMALL LIGATURE MEN NOW;4ECH;4INI;3VEW NOW;3MEN XEH;;;;;;HEBREW LETTER YOD
      WITH HIRIQ;1POINT JUDEO-SPANISH VARIKA;1LIGATURE YIDDISH YOD YOD PATAH;1LETTER ALTERNATIVE
      AYIN;2WIDE ALEF;3DALET;3HE;3KAF;3LAMED;3FINAL MEM;3RESH;3TAV;2ALTERNATIVE PLUS SIGN;2SHIN
      WITH SHIN DOT;4SIN DOT;4DAGESH AND SHIN DOT;6SIN DOT;2ALEF WITH PATAH;4QAMATS;4MAPIQ;2BET
      WITH DAGESH;2GIMEL WITH DAGESH;2DALET WITH DAGESH;2HE WITH MAPIQ;2VAV WITH DAGESH;2ZAYIN WITH
      DAGESH;;2TET WITH DAGESH;2YOD WITH DAGESH;2FINAL KAF WITH DAGESH;2KAF WITH DAGESH;2LAMED WITH
      DAGESH;;2MEM WITH DAGESH;;2NUN WITH DAGESH;2SAMEKH WITH DAGESH;;2FINAL PE WITH DAGESH;2PE
      WITH DAGESH;;2TSADI WITH DAGESH;2QOF WITH DAGESH;2RESH WITH DAGESH;2SHIN WITH DAGESH;2TAV
      WITH DAGESH;2VAV WITH HOLAM;2BET WITH RAFE;2KAF WITH RAFE;2PE WITH RAFE;1LIGATURE ALEF
      LAMED"),
    (0xff01, "FULLWIDTH EXCLAMATION MARK;1QUOTATION MARK;1NUMBER SIGN;1DOLLAR SIGN;1PERCENT SIGN;
      1AMPERSAND;1APOSTROPHE;1LEFT PARENTHESIS;1RIGHT PARENTHESIS;1ASTERISK;1PLUS SIGN;1COMMA;
      1HYPHEN-MINUS;1FULL STOP;1SOLIDUS;1DIGIT ZERO;2ONE;2TWO;2THREE;2FOUR;2FIVE;2SIX;2SEVEN;
      2EIGHT;2NINE;1COLON;1SEMICOLON;1LESS-THAN SIGN;1EQUALS SIGN;1GREATER-THAN SIGN;1QUESTION
      MARK;1COMMERCIAL AT;1LATIN CAPITAL LETTER A;4B;4C;4D;4E;4F;4G;4H;4I;4J;4K;4L;4M;4N;4O;4P;4Q;
      4R;4S;4T;4U;4V;4W;4X;4Y;4Z;1LEFT SQUARE BRACKET;1REVERSE SOLIDUS;1RIGHT SQUARE BRACKET;
      1CIRCUMFLEX ACCENT;1LOW LINE;1GRAVE ACCENT;1LATIN SMALL LETTER A;4B;4C;4D;4E;4F;4G;4H;4I;4J;
      4K;4L;4M;4N;4O;4P;4Q;4R;4S;4T;4U;4V;4W;4X;4Y;4Z;1LEFT CURLY BRACKET;1VERTICAL LINE;1RIGHT
      CURLY BRACKET;1TILDE;1LEFT WHITE PARENTHESIS;1RIGHT WHITE PARENTHESIS;HALFWIDTH IDEOGRAPHIC
      FULL STOP;1LEFT CORNER BRACKET;1RIGHT CORNER BRACKET;1IDEOGRAPHIC COMMA;1KATAKANA MIDDLE DOT;
      2LETTER WO;3SMALL A;4I;4U;4E;4O;4YA;4YU;4YO;4TU;1KATAKANA-HIRAGANA PROLONGED SOUND MARK;
      1KATAKANA LETTER A;3I;3U;3E;3O;3KA;3KI;3KU;3KE;3KO;3SA;3SI;3SU;3SE;3SO;3TA;3TI;3TU;3TE;3TO;
      3NA;3NI;3NU;3NE;3NO;3HA;3HI;3HU;3HE;3HO;3MA;3MI;3MU;3ME;3MO;3YA;3YU;3YO;3RA;3RI;3RU;3RE;3RO;
      3WA;3N;2VOICED SOUND MARK;2SEMI-VOICED SOUND MARK;1HANGUL FILLER;2LETTER KIYEOK;
      3SSANGKIYEOK;3KIYEOK-SIOS;3NIEUN;3NIEUN-CIEUC;3NIEUN-HIEUH;3TIKEUT;3SSANGTIKEUT;3RIEUL;
      3RIEUL-KIYEOK;3RIEUL-MIEUM;3RIEUL-PIEUP;3RIEUL-SIOS;3RIEUL-THIEUTH;3RIEUL-PHIEUPH;
      3RIEUL-HIEUH;3MIEUM;3PIEUP;3SSANGPIEUP;3PIEUP-SIOS;3SIOS;3SSANGSIOS;3IEUNG;3CIEUC;
      3SSANGCIEUC;3CHIEUCH;3KHIEUKH;3THIEUTH;3PHIEUPH;3HIEUH;;;;3A;3AE;3YA;3YAE;3EO;3E;;;3YEO;3YE;
      3O;3WA;3WAE;3OE;;;3YO;3U;3WEO;3WE;3WI;3YU;;;3EU;3YI;3I;;;;FULLWIDTH CENT SIGN;1POUND SIGN;
      1NOT SIGN;1MACRON;1BROKEN BAR;1YEN SIGN;1WON SIGN;;HALFWIDTH FORMS LIGHT VERTICAL;1LEFTWARDS
      ARROW;1UPWARDS ARROW;1RIGHTWARDS ARROW;1DOWNWARDS ARROW;1BLACK SQUARE;1WHITE CIRCLE"),
    (0xfff9, "INTERLINEAR ANNOTATION ANCHOR;2SEPARATOR;2TERMINATOR;OBJECT REPLACEMENT CHARACTER;
      REPLACEMENT CHARACTER")]

end Switchboard.Text
