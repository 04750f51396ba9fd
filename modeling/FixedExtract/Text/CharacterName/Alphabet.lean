import FixedExtract.Text.CharacterName.Run
/-!
# Names in the alphabets

The characters from U+0000 to U+1FFF: the scripts in daily use, and their marks.
-/

namespace FixedExtract.Text

/-- The runs of these characters, in ascending order. -/
def alphabetNames : List NameRun :=
  [⟨32, ["aSPACEaEXCLAMATION MARKaQUOTATION MARKaNUMBER SIGNaDOLLAR SIGNaPERCENT SIGNaAMPERSANDbPO",
     "STROPHEaLEFT PARENTHESISaRIGHT PARENTHESISaASTERISKaPLUS SIGNaCOMMAaHYPHEN-MINUSaFULL STOPaS",
     "OLIDUSaDIGIT ZEROgONEgTWOhHREEgFOURhIVEgSIXhEVENgEIGHTgNINEaCOLONaSEMICOLONaLESS-THAN SIGNaE",
     "QUALS SIGNaGREATER-THAN SIGNaQUESTION MARKaCOMMERCIAL ATaLATIN CAPITAL LETTER AvBvCvDvEvFvGv",
     "HvIvJvKvLvMvNvOvPvQvRvSvTvUvVvWvXvYvZbEFT SQUARE BRACKETaREVERSE SOLIDUSbIGHT SQUARE BRACKET",
     "aCIRCUMFLEX ACCENTaLOW LINEaGRAVE ACCENTaLATIN SMALL LETTER AtBtCtDtEtFtGtHtItJtKtLtMtNtOtPt",
     "QtRtStTtUtVtWtXtYtZbEFT CURLY BRACKETaVERTICAL LINEaRIGHT CURLY BRACKETaTILDE"]⟩,
   ⟨160, ["aNO-BREAK SPACEaINVERTED EXCLAMATION MARKaCENT SIGNaPOUND SIGNaCURRENCY SIGNaYEN SIGNaB",
     "ROKEN BARaSECTION SIGNaDIAERESISaCOPYRIGHT SIGNaFEMININE ORDINAL INDICATORaLEFT-POINTING DOU",
     "BLE ANGLE QUOTATION MARKaNOT SIGNaSOFT HYPHENaREGISTERED SIGNaMACRONaDEGREE SIGNaPLUS-MINUS ",
     "SIGNaSUPERSCRIPT TWOnHREEaACUTE ACCENTaMICRO SIGNaPILCROW SIGNaMIDDLE DOTaCEDILLAaSUPERSCRIP",
     "T ONEaMASCULINE ORDINAL INDICATORaRIGHT-POINTING DOUBLE ANGLE QUOTATION MARKaVULGAR FRACTION",
     " ONE QUARTERuHALFqTHREE QUARTERSaINVERTED QUESTION MARKaLATIN CAPITAL LETTER A WITH GRAVEzdA",
     "CUTEzdCIRCUMFLEXzdTILDEzdDIAERESISzdRING ABOVEwEvC WITH CEDILLAvE WITH GRAVEzdACUTEzdCIRCUMF",
     "LEXzdDIAERESISvI WITH GRAVEzdACUTEzdCIRCUMFLEXzdDIAERESISvETHvN WITH TILDEvO WITH GRAVEzdACU",
     "TEzdCIRCUMFLEXzdTILDEzdDIAERESISaMULTIPLICATION SIGNaLATIN CAPITAL LETTER O WITH STROKEvU WI",
     "TH GRAVEzdACUTEzdCIRCUMFLEXzdDIAERESISvY WITH ACUTEvTHORNgSMALL LETTER SHARP StA WITH GRAVEz",
     "bACUTEzbCIRCUMFLEXzbTILDEzbDIAERESISzbRING ABOVEuEtC WITH CEDILLAtE WITH GRAVEzbACUTEzbCIRCU",
     "MFLEXzbDIAERESIStI WITH GRAVEzbACUTEzbCIRCUMFLEXzbDIAERESIStETHtN WITH TILDEtO WITH GRAVEzbA",
     "CUTEzbCIRCUMFLEXzbTILDEzbDIAERESISaDIVISION SIGNaLATIN SMALL LETTER O WITH STROKEtU WITH GRA",
     "VEzbACUTEzbCIRCUMFLEXzbDIAERESIStY WITH ACUTEtTHORNtY WITH DIAERESISgCAPITAL LETTER A WITH M",
     "ACRONgSMALL LETTER A WITH MACRONgCAPITAL LETTER A WITH BREVEgSMALL LETTER A WITH BREVEgCAPIT",
     "AL LETTER A WITH OGONEKgSMALL LETTER A WITH OGONEKgCAPITAL LETTER C WITH ACUTEgSMALL LETTER ",
     "C WITH ACUTEgCAPITAL LETTER C WITH CIRCUMFLEXgSMALL LETTER C WITH CIRCUMFLEXgCAPITAL LETTER ",
     "C WITH DOT ABOVEgSMALL LETTER C WITH DOT ABOVEgCAPITAL LETTER C WITH CARONgSMALL LETTER C WI",
     "TH CARONgCAPITAL LETTER D WITH CARONgSMALL LETTER D WITH CARONgCAPITAL LETTER D WITH STROKEg",
     "SMALL LETTER D WITH STROKEgCAPITAL LETTER E WITH MACRONgSMALL LETTER E WITH MACRONgCAPITAL L",
     "ETTER E WITH BREVEgSMALL LETTER E WITH BREVEgCAPITAL LETTER E WITH DOT ABOVEgSMALL LETTER E ",
     "WITH DOT ABOVEgCAPITAL LETTER E WITH OGONEKgSMALL LETTER E WITH OGONEKgCAPITAL LETTER E WITH",
     " CARONgSMALL LETTER E WITH CARONgCAPITAL LETTER G WITH CIRCUMFLEXgSMALL LETTER G WITH CIRCUM",
     "FLEXgCAPITAL LETTER G WITH BREVEgSMALL LETTER G WITH BREVEgCAPITAL LETTER G WITH DOT ABOVEgS",
     "MALL LETTER G WITH DOT ABOVEgCAPITAL LETTER G WITH CEDILLAgSMALL LETTER G WITH CEDILLAgCAPIT",
     "AL LETTER H WITH CIRCUMFLEXgSMALL LETTER H WITH CIRCUMFLEXgCAPITAL LETTER H WITH STROKEgSMAL",
     "L LETTER H WITH STROKEgCAPITAL LETTER I WITH TILDEgSMALL LETTER I WITH TILDEgCAPITAL LETTER ",
     "I WITH MACRONgSMALL LETTER I WITH MACRONgCAPITAL LETTER I WITH BREVEgSMALL LETTER I WITH BRE",
     "VEgCAPITAL LETTER I WITH OGONEKgSMALL LETTER I WITH OGONEKgCAPITAL LETTER I WITH DOT ABOVEgS",
     "MALL LETTER DOTLESS IgCAPITAL LIGATURE IJgSMALL LIGATURE IJgCAPITAL LETTER J WITH CIRCUMFLEX",
     "gSMALL LETTER J WITH CIRCUMFLEXgCAPITAL LETTER K WITH CEDILLAgSMALL LETTER K WITH CEDILLAuRA",
     "gCAPITAL LETTER L WITH ACUTEgSMALL LETTER L WITH ACUTEgCAPITAL LETTER L WITH CEDILLAgSMALL L",
     "ETTER L WITH CEDILLAgCAPITAL LETTER L WITH CARONgSMALL LETTER L WITH CARONgCAPITAL LETTER L ",
     "WITH MIDDLE DOTgSMALL LETTER L WITH MIDDLE DOTgCAPITAL LETTER L WITH STROKEgSMALL LETTER L W",
     "ITH STROKEgCAPITAL LETTER N WITH ACUTEgSMALL LETTER N WITH ACUTEgCAPITAL LETTER N WITH CEDIL",
     "LAgSMALL LETTER N WITH CEDILLAgCAPITAL LETTER N WITH CARONgSMALL LETTER N WITH CARONvPRECEDE",
     "D BY APOSTROPHEgCAPITAL LETTER ENGgSMALL LETTER ENGgCAPITAL LETTER O WITH MACRONgSMALL LETTE",
     "R O WITH MACRONgCAPITAL LETTER O WITH BREVEgSMALL LETTER O WITH BREVEgCAPITAL LETTER O WITH ",
     "DOUBLE ACUTEgSMALL LETTER O WITH DOUBLE ACUTEgCAPITAL LIGATURE OEgSMALL LIGATURE OEgCAPITAL ",
     "LETTER R WITH ACUTEgSMALL LETTER R WITH ACUTEgCAPITAL LETTER R WITH CEDILLAgSMALL LETTER R W",
     "ITH CEDILLAgCAPITAL LETTER R WITH CARONgSMALL LETTER R WITH CARONgCAPITAL LETTER S WITH ACUT",
     "EgSMALL LETTER S WITH ACUTEgCAPITAL LETTER S WITH CIRCUMFLEXgSMALL LETTER S WITH CIRCUMFLEXg",
     "CAPITAL LETTER S WITH CEDILLAgSMALL LETTER S WITH CEDILLAgCAPITAL LETTER S WITH CARONgSMALL ",
     "LETTER S WITH CARONgCAPITAL LETTER T WITH CEDILLAgSMALL LETTER T WITH CEDILLAgCAPITAL LETTER",
     " T WITH CARONgSMALL LETTER T WITH CARONgCAPITAL LETTER T WITH STROKEgSMALL LETTER T WITH STR",
     "OKEgCAPITAL LETTER U WITH TILDEgSMALL LETTER U WITH TILDEgCAPITAL LETTER U WITH MACRONgSMALL",
     " LETTER U WITH MACRONgCAPITAL LETTER U WITH BREVEgSMALL LETTER U WITH BREVEgCAPITAL LETTER U",
     " WITH RING ABOVEgSMALL LETTER U WITH RING ABOVEgCAPITAL LETTER U WITH DOUBLE ACUTEgSMALL LET",
     "TER U WITH DOUBLE ACUTEgCAPITAL LETTER U WITH OGONEKgSMALL LETTER U WITH OGONEKgCAPITAL LETT",
     "ER W WITH CIRCUMFLEXgSMALL LETTER W WITH CIRCUMFLEXgCAPITAL LETTER Y WITH CIRCUMFLEXgSMALL L",
     "ETTER Y WITH CIRCUMFLEXgCAPITAL LETTER Y WITH DIAERESISvZ WITH ACUTEgSMALL LETTER Z WITH ACU",
     "TEgCAPITAL LETTER Z WITH DOT ABOVEgSMALL LETTER Z WITH DOT ABOVEgCAPITAL LETTER Z WITH CARON",
     "gSMALL LETTER Z WITH CARONtLONG StB WITH STROKEgCAPITAL LETTER B WITH HOOKzdTOPBARgSMALL LET",
     "TER B WITH TOPBARgCAPITAL LETTER TONE SIXgSMALL LETTER TONE SIXgCAPITAL LETTER OPEN OvC WITH",
     " HOOKgSMALL LETTER C WITH HOOKgCAPITAL LETTER AFRICAN DvD WITH HOOKzdTOPBARgSMALL LETTER D W",
     "ITH TOPBARtTURNED DELTAgCAPITAL LETTER REVERSED EvSCHWAvOPEN EvF WITH HOOKgSMALL LETTER F WI",
     "TH HOOKgCAPITAL LETTER G WITH HOOKwAMMAgSMALL LETTER HVgCAPITAL LETTER IOTAw WITH STROKEvK W",
     "ITH HOOKgSMALL LETTER K WITH HOOKtL WITH BARuAMBDA WITH STROKEgCAPITAL LETTER TURNED MvN WIT",
     "H LEFT HOOKgSMALL LETTER N WITH LONG RIGHT LEGgCAPITAL LETTER O WITH MIDDLE TILDEzdHORNgSMAL",
     "L LETTER O WITH HORNgCAPITAL LETTER OIgSMALL LETTER OIgCAPITAL LETTER P WITH HOOKgSMALL LETT",
     "ER P WITH HOOKgLETTER YRgCAPITAL LETTER TONE TWOgSMALL LETTER TONE TWOgCAPITAL LETTER ESHgLE",
     "TTER REVERSED ESH LOOPgSMALL LETTER T WITH PALATAL HOOKgCAPITAL LETTER T WITH HOOKgSMALL LET",
     "TER T WITH HOOKgCAPITAL LETTER T WITH RETROFLEX HOOKvU WITH HORNgSMALL LETTER U WITH HORNgCA",
     "PITAL LETTER UPSILONvV WITH HOOKvY WITH HOOKgSMALL LETTER Y WITH HOOKgCAPITAL LETTER Z WITH ",
     "STROKEgSMALL LETTER Z WITH STROKEgCAPITAL LETTER EZHy REVERSEDgSMALL LETTER EZH REVERSEDxWIT",
     "H TAILgLETTER TWO WITH STROKEgCAPITAL LETTER TONE FIVEgSMALL LETTER TONE FIVEgLETTER INVERTE",
     "D GLOTTAL STOP WITH STROKEnWYNNnDENTAL CLICKnLATERAL CLICKnALVEOLAR CLICKnRETROFLEX CLICKgCA",
     "PITAL LETTER DZ WITH CARONw WITH SMALL LETTER Z WITH CARONgSMALL LETTER DZ WITH CARONgCAPITA",
     "L LETTER LJw WITH SMALL LETTER JgSMALL LETTER LJgCAPITAL LETTER NJw WITH SMALL LETTER JgSMAL",
     "L LETTER NJgCAPITAL LETTER A WITH CARONgSMALL LETTER A WITH CARONgCAPITAL LETTER I WITH CARO",
     "NgSMALL LETTER I WITH CARONgCAPITAL LETTER O WITH CARONgSMALL LETTER O WITH CARONgCAPITAL LE",
     "TTER U WITH CARONgSMALL LETTER U WITH CARONgCAPITAL LETTER U WITH DIAERESIS AND MACRONgSMALL",
     " LETTER U WITH DIAERESIS AND MACRONgCAPITAL LETTER U WITH DIAERESIS AND ACUTEgSMALL LETTER U",
     " WITH DIAERESIS AND ACUTEgCAPITAL LETTER U WITH DIAERESIS AND CARONgSMALL LETTER U WITH DIAE",
     "RESIS AND CARONgCAPITAL LETTER U WITH DIAERESIS AND GRAVEgSMALL LETTER U WITH DIAERESIS AND ",
     "GRAVEtTURNED EgCAPITAL LETTER A WITH DIAERESIS AND MACRONgSMALL LETTER A WITH DIAERESIS AND ",
     "MACRONgCAPITAL LETTER A WITH DOT ABOVE AND MACRONgSMALL LETTER A WITH DOT ABOVE AND MACRONgC",
     "APITAL LETTER AE WITH MACRONgSMALL LETTER AE WITH MACRONgCAPITAL LETTER G WITH STROKEgSMALL ",
     "LETTER G WITH STROKEgCAPITAL LETTER G WITH CARONgSMALL LETTER G WITH CARONgCAPITAL LETTER K ",
     "WITH CARONgSMALL LETTER K WITH CARONgCAPITAL LETTER O WITH OGONEKgSMALL LETTER O WITH OGONEK",
     "gCAPITAL LETTER O WITH OGONEK AND MACRONgSMALL LETTER O WITH OGONEK AND MACRONgCAPITAL LETTE",
     "R EZH WITH CARONgSMALL LETTER EZH WITH CARONtJ WITH CARONgCAPITAL LETTER DZw WITH SMALL LETT",
     "ER ZgSMALL LETTER DZgCAPITAL LETTER G WITH ACUTEgSMALL LETTER G WITH ACUTEgCAPITAL LETTER HW",
     "AIRvWYNNvN WITH GRAVEgSMALL LETTER N WITH GRAVEgCAPITAL LETTER A WITH RING ABOVE AND ACUTEgS",
     "MALL LETTER A WITH RING ABOVE AND ACUTEgCAPITAL LETTER AE WITH ACUTEgSMALL LETTER AE WITH AC",
     "UTEgCAPITAL LETTER O WITH STROKE AND ACUTEgSMALL LETTER O WITH STROKE AND ACUTEgCAPITAL LETT",
     "ER A WITH DOUBLE GRAVEgSMALL LETTER A WITH DOUBLE GRAVEgCAPITAL LETTER A WITH INVERTED BREVE",
     "gSMALL LETTER A WITH INVERTED BREVEgCAPITAL LETTER E WITH DOUBLE GRAVEgSMALL LETTER E WITH D",
     "OUBLE GRAVEgCAPITAL LETTER E WITH INVERTED BREVEgSMALL LETTER E WITH INVERTED BREVEgCAPITAL ",
     "LETTER I WITH DOUBLE GRAVEgSMALL LETTER I WITH DOUBLE GRAVEgCAPITAL LETTER I WITH INVERTED B",
     "REVEgSMALL LETTER I WITH INVERTED BREVEgCAPITAL LETTER O WITH DOUBLE GRAVEgSMALL LETTER O WI",
     "TH DOUBLE GRAVEgCAPITAL LETTER O WITH INVERTED BREVEgSMALL LETTER O WITH INVERTED BREVEgCAPI",
     "TAL LETTER R WITH DOUBLE GRAVEgSMALL LETTER R WITH DOUBLE GRAVEgCAPITAL LETTER R WITH INVERT",
     "ED BREVEgSMALL LETTER R WITH INVERTED BREVEgCAPITAL LETTER U WITH DOUBLE GRAVEgSMALL LETTER ",
     "U WITH DOUBLE GRAVEgCAPITAL LETTER U WITH INVERTED BREVEgSMALL LETTER U WITH INVERTED BREVEg",
     "CAPITAL LETTER S WITH COMMA BELOWgSMALL LETTER S WITH COMMA BELOWgCAPITAL LETTER T WITH COMM",
     "A BELOWgSMALL LETTER T WITH COMMA BELOWgCAPITAL LETTER YOGHgSMALL LETTER YOGHgCAPITAL LETTER",
     " H WITH CARONgSMALL LETTER H WITH CARONgCAPITAL LETTER N WITH LONG RIGHT LEGgSMALL LETTER D ",
     "WITH CURLgCAPITAL LETTER OUgSMALL LETTER OUgCAPITAL LETTER Z WITH HOOKgSMALL LETTER Z WITH H",
     "OOKgCAPITAL LETTER A WITH DOT ABOVEgSMALL LETTER A WITH DOT ABOVEgCAPITAL LETTER E WITH CEDI",
     "LLAgSMALL LETTER E WITH CEDILLAgCAPITAL LETTER O WITH DIAERESIS AND MACRONgSMALL LETTER O WI",
     "TH DIAERESIS AND MACRONgCAPITAL LETTER O WITH TILDE AND MACRONgSMALL LETTER O WITH TILDE AND",
     " MACRONgCAPITAL LETTER O WITH DOT ABOVEgSMALL LETTER O WITH DOT ABOVEgCAPITAL LETTER O WITH ",
     "DOT ABOVE AND MACRONgSMALL LETTER O WITH DOT ABOVE AND MACRONgCAPITAL LETTER Y WITH MACRONgS",
     "MALL LETTER Y WITH MACRONtL WITH CURLtN WITH CURLtT WITH CURLtDOTLESS JuB DIGRAPHtQP DIGRAPH",
     "gCAPITAL LETTER A WITH STROKEvC WITH STROKEgSMALL LETTER C WITH STROKEgCAPITAL LETTER L WITH",
     " BARvT WITH DIAGONAL STROKEgSMALL LETTER S WITH SWASH TAILtZ WITH SWASH TAILgCAPITAL LETTER ",
     "GLOTTAL STOPgSMALL LETTER GLOTTAL STOPgCAPITAL LETTER B WITH STROKEvU BARvTURNED VvE WITH ST",
     "ROKEgSMALL LETTER E WITH STROKEgCAPITAL LETTER J WITH STROKEgSMALL LETTER J WITH STROKEgCAPI",
     "TAL LETTER SMALL Q WITH HOOK TAILgSMALL LETTER Q WITH HOOK TAILgCAPITAL LETTER R WITH STROKE",
     "gSMALL LETTER R WITH STROKEgCAPITAL LETTER Y WITH STROKEgSMALL LETTER Y WITH STROKEtTURNED A",
     "tALPHAtTURNED ALPHAtB WITH HOOKtOPEN OtC WITH CURLtD WITH TAILzbHOOKtREVERSED EtSCHWAy WITH ",
     "HOOKtOPEN EtREVERSED OPEN Ezj WITH HOOKtCLOSED REVERSED OPEN EtDOTLESS J WITH STROKEtG WITH ",
     "HOOKtSCRIPT GgLETTER SMALL CAPITAL GgSMALL LETTER GAMMAtRAMS HORNtTURNED HtH WITH HOOKuENG W",
     "ITH HOOKtI WITH STROKEuOTAgLETTER SMALL CAPITAL IgSMALL LETTER L WITH MIDDLE TILDEzbBELTzbRE",
     "TROFLEX HOOKuEZHtTURNED Mzc WITH LONG LEGtM WITH HOOKtN WITH LEFT HOOKzbRETROFLEX HOOKgLETTE",
     "R SMALL CAPITAL NgSMALL LETTER BARRED OgLETTER SMALL CAPITAL OEgSMALL LETTER CLOSED OMEGAtPH",
     "ItTURNED Rzc WITH LONG LEGziHOOKtR WITH LONG LEGzbTAILzbFISHHOOKuEVERSED R WITH FISHHOOKgLET",
     "TER SMALL CAPITAL RzcINVERTED RgSMALL LETTER S WITH HOOKtESHtDOTLESS J WITH STROKE AND HOOKt",
     "SQUAT REVERSED ESHtESH WITH CURLtTURNED Tu WITH RETROFLEX HOOKtU BARuPSILONtV WITH HOOKtTURN",
     "ED VzbWzbYgLETTER SMALL CAPITAL YgSMALL LETTER Z WITH RETROFLEX HOOKzbCURLtEZHw WITH CURLgLE",
     "TTER GLOTTAL STOPnPHARYNGEAL VOICED FRICATIVEnINVERTED GLOTTAL STOPnSTRETCHED CnBILABIAL CLI",
     "CKnSMALL CAPITAL BgSMALL LETTER CLOSED OPEN EgLETTER SMALL CAPITAL G WITH HOOKzcHgSMALL LETT",
     "ER J WITH CROSSED-TAILtTURNED KgLETTER SMALL CAPITAL LgSMALL LETTER Q WITH HOOKgLETTER GLOTT",
     "AL STOP WITH STROKEnREVERSED GLOTTAL STOP WITH STROKEgSMALL LETTER DZ DIGRAPHuEZH DIGRAPHuZ ",
     "DIGRAPH WITH CURLtTS DIGRAPHuESH DIGRAPHuC DIGRAPH WITH CURLtFENG DIGRAPHtLS DIGRAPHuZ DIGRA",
     "PHgLETTER BILABIAL PERCUSSIVEpDENTAL PERCUSSIVEgSMALL LETTER TURNED H WITH FISHHOOKzq AND TA",
     "ILaMODIFIER LETTER SMALL Hx WITH HOOKwJwRwTURNED Rzf WITH HOOKwCAPITAL INVERTED RwWwYqPRIMEq",
     "DOUBLE PRIMEqTURNED COMMAqAPOSTROPHEqREVERSED COMMArIGHT HALF RINGqLEFT HALF RINGqGLOTTAL ST",
     "OPqREVERSED GLOTTAL STOPqLEFT ARROWHEADqRIGHT ARROWHEADqUP ARROWHEADqDOWN ARROWHEADqCIRCUMFL",
     "EX ACCENTaCARONaMODIFIER LETTER VERTICAL LINEqMACRONqACUTE ACCENTqGRAVE ACCENTqLOW VERTICAL ",
     "LINEuMACRONuGRAVE ACCENTuACUTE ACCENTqTRIANGULAR COLONqHALF TRIANGULAR COLONqCENTRED RIGHT H",
     "ALF RINGyLEFT HALF RINGqUP TACKqDOWN TACKqPLUS SIGNqMINUS SIGNaBREVEaDOT ABOVEaRING ABOVEaOG",
     "ONEKaSMALL TILDEaDOUBLE ACUTE ACCENTaMODIFIER LETTER RHOTIC HOOKqCROSS ACCENTqSMALL GAMMAwLw",
     "SwXwREVERSED GLOTTAL STOPqEXTRA-HIGH TONE BARqHIGH TONE BARqMID TONE BARqLOW TONE BARqEXTRA-",
     "LOW TONE BARqYIN DEPARTING TONE MARKrANG DEPARTING TONE MARKqVOICINGqUNASPIRATEDqDOUBLE APOS",
     "TROPHEqLOW DOWN ARROWHEADuUP ARROWHEADuLEFT ARROWHEADuRIGHT ARROWHEADwNGqMIDDLE GRAVE ACCENT",
     "xDOUBLE GRAVE ACCENTzfACUTE ACCENTqLOW TILDEqRAISED COLONqBEGIN HIGH TONEqEND HIGH TONEqBEGI",
     "N LOW TONEqEND LOW TONEqSHELFqOPEN SHELFqLOW LEFT ARROWaCOMBINING GRAVE ACCENTkACUTE ACCENTk",
     "CIRCUMFLEX ACCENTkTILDEkMACRONkOVERLINEkBREVEkDOT ABOVElIAERESISkHOOK ABOVEkRING ABOVEkDOUBL",
     "E ACUTE ACCENTkCARONkVERTICAL LINE ABOVEkDOUBLE VERTICAL LINE ABOVErGRAVE ACCENTkCANDRABINDU",
     "kINVERTED BREVEkTURNED COMMA ABOVEkCOMMA ABOVEkREVERSED COMMA ABOVEkCOMMA ABOVE RIGHTkGRAVE ",
     "ACCENT BELOWkACUTE ACCENT BELOWkLEFT TACK BELOWkRIGHT TACK BELOWkLEFT ANGLE ABOVEkHORNkLEFT ",
     "HALF RING BELOWkUP TACK BELOWkDOWN TACK BELOWkPLUS SIGN BELOWkMINUS SIGN BELOWkPALATALIZED H",
     "OOK BELOWkRETROFLEX HOOK BELOWkDOT BELOWlIAERESIS BELOWkRING BELOWkCOMMA BELOWlEDILLAkOGONEK",
     "kVERTICAL LINE BELOWkBRIDGE BELOWkINVERTED DOUBLE ARCH BELOWkCARON BELOWlIRCUMFLEX ACCENT BE",
     "LOWkBREVE BELOWkINVERTED BREVE BELOWkTILDE BELOWkMACRON BELOWkLOW LINEkDOUBLE LOW LINEkTILDE",
     " OVERLAYkSHORT STROKE OVERLAYkLONG STROKE OVERLAYkSHORT SOLIDUS OVERLAYkLONG SOLIDUS OVERLAY",
     "kRIGHT HALF RING BELOWkINVERTED BRIDGE BELOWkSQUARE BELOWlEAGULL BELOWkX ABOVEkVERTICAL TILD",
     "EkDOUBLE OVERLINEkGRAVE TONE MARKkACUTE TONE MARKkGREEK PERISPOMENIqKORONISqDIALYTIKA TONOSq",
     "YPOGEGRAMMENIkBRIDGE ABOVEkEQUALS SIGN BELOWkDOUBLE VERTICAL LINE BELOWkLEFT ANGLE BELOWkNOT",
     " TILDE ABOVEkHOMOTHETIC ABOVEkALMOST EQUAL TO ABOVEkLEFT RIGHT ARROW BELOWkUPWARDS ARROW BEL",
     "OWkGRAPHEME JOINERkRIGHT ARROWHEAD ABOVEkLEFT HALF RING ABOVEkFERMATAkX BELOWkLEFT ARROWHEAD",
     " BELOWkRIGHT ARROWHEAD BELOWzbAND UP ARROWHEAD BELOWqHALF RING ABOVEkDOT ABOVE RIGHTkASTERIS",
     "K BELOWkDOUBLE RING BELOWkZIGZAG ABOVEkDOUBLE BREVE BELOWwrMACRONx BELOWrTILDErINVERTED BREV",
     "ErRIGHTWARDS ARROW BELOWkLATIN SMALL LETTER AzeEzeIzeOzeUzeCzeDzeHzeMzeRzeTzeVzeXaGREEK CAPI",
     "TAL LETTER HETAgSMALL LETTER HETAgCAPITAL LETTER ARCHAIC SAMPIgSMALL LETTER ARCHAIC SAMPIgNU",
     "MERAL SIGNgLOWER NUMERAL SIGNgCAPITAL LETTER PAMPHYLIAN DIGAMMAgSMALL LETTER PAMPHYLIAN DIGA",
     "MMA"]⟩,
   ⟨890, ["aGREEK YPOGEGRAMMENIgSMALL REVERSED LUNATE SIGMA SYMBOLmDOTTED LUNATE SIGMA SYMBOLmREVE",
     "RSED DOTTED LUNATE SIGMA SYMBOLgQUESTION MARKgCAPITAL LETTER YOT"]⟩,
   ⟨900, ["aGREEK TONOSgDIALYTIKA TONOSgCAPITAL LETTER ALPHA WITH TONOSgANO TELEIAgCAPITAL LETTER ",
     "EPSILON WITH TONOSwTA WITH TONOSvIOTA WITH TONOS"]⟩,
   ⟨908, ["aGREEK CAPITAL LETTER OMICRON WITH TONOS"]⟩,
   ⟨910, ["aGREEK CAPITAL LETTER UPSILON WITH TONOSvOMEGA WITH TONOSgSMALL LETTER IOTA WITH DIALYT",
     "IKA AND TONOSgCAPITAL LETTER ALPHAvBETAvGAMMAvDELTAvEPSILONvZETAvETAvTHETAvIOTAvKAPPAvLAMDAv",
     "MUvNUvXIvOMICRONvPIvRHO"]⟩,
   ⟨931, ["aGREEK CAPITAL LETTER SIGMAvTAUvUPSILONvPHIvCHIvPSIvOMEGAvIOTA WITH DIALYTIKAvUPSILON W",
     "ITH DIALYTIKAgSMALL LETTER ALPHA WITH TONOStEPSILON WITH TONOSuTA WITH TONOStIOTA WITH TONOS",
     "tUPSILON WITH DIALYTIKA AND TONOStALPHAtBETAtGAMMAtDELTAtEPSILONtZETAtETAtTHETAtIOTAtKAPPAtL",
     "AMDAtMUtNUtXItOMICRONtPItRHOtFINAL SIGMAtSIGMAtTAUtUPSILONtPHItCHItPSItOMEGAtIOTA WITH DIALY",
     "TIKAtUPSILON WITH DIALYTIKAtOMICRON WITH TONOStUPSILON WITH TONOStOMEGA WITH TONOSgCAPITAL K",
     "AI SYMBOLgBETA SYMBOLgTHETA SYMBOLgUPSILON WITH HOOK SYMBOLtACUTE AND HOOK SYMBOLtDIAERESIS ",
     "AND HOOK SYMBOLgPHI SYMBOLhI SYMBOLgKAI SYMBOLgLETTER ARCHAIC KOPPAgSMALL LETTER ARCHAIC KOP",
     "PAgLETTER STIGMAgSMALL LETTER STIGMAgLETTER DIGAMMAgSMALL LETTER DIGAMMAgLETTER KOPPAgSMALL ",
     "LETTER KOPPAgLETTER SAMPIgSMALL LETTER SAMPIaCOPTIC CAPITAL LETTER SHEIhSMALL LETTER SHEIhCA",
     "PITAL LETTER FEIhSMALL LETTER FEIhCAPITAL LETTER KHEIhSMALL LETTER KHEIhCAPITAL LETTER HORIh",
     "SMALL LETTER HORIhCAPITAL LETTER GANGIAhSMALL LETTER GANGIAhCAPITAL LETTER SHIMAhSMALL LETTE",
     "R SHIMAhCAPITAL LETTER DEIhSMALL LETTER DEIaGREEK KAPPA SYMBOLgRHO SYMBOLgLUNATE SIGMA SYMBO",
     "LhETTER YOTgCAPITAL THETA SYMBOLgLUNATE EPSILON SYMBOLgREVERSED LUNATE EPSILON SYMBOLgCAPITA",
     "L LETTER SHOgSMALL LETTER SHOgCAPITAL LUNATE SIGMA SYMBOLpETTER SANgSMALL LETTER SANgRHO WIT",
     "H STROKE SYMBOLgCAPITAL REVERSED LUNATE SIGMA SYMBOLoDOTTED LUNATE SIGMA SYMBOLoREVERSED DOT",
     "TED LUNATE SIGMA SYMBOLaCYRILLIC CAPITAL LETTER IE WITH GRAVEzaOyDJEyGJEyUKRAINIAN IEyDZEyBY",
     "ELORUSSIAN-UKRAINIAN IyYIyJEyLJEyNJEyTSHEyKJEyI WITH GRAVEySHORT UyDZHEyAyBEyVEyGHEyDEyIEyZH",
     "EzaEyIySHORT IyKAyELzaMzaNyOyPEyERzaSyTEyUyEFyHAyTSEyCHEySHAzbCHAyHARD SIGNyYERUySOFT SIGNyE",
     "yYUzaAjSMALL LETTER AwBEwVEwGHEwDEwIEwZHExEwIwSHORT IwKAwELxMxNwOwPEwERxSwTEwUwEFwHAwTSEwCHE",
     "wSHAyCHAwHARD SIGNwYERUwSOFT SIGNwEwYUxAwIE WITH GRAVExOwDJEwGJEwUKRAINIAN IEwDZEwBYELORUSSI",
     "AN-UKRAINIAN IwYIwJEwLJEwNJEwTSHEwKJEwI WITH GRAVEwSHORT UwDZHEjCAPITAL LETTER OMEGAjSMALL L",
     "ETTER OMEGAjCAPITAL LETTER YATjSMALL LETTER YATjCAPITAL LETTER IOTIFIED EjSMALL LETTER IOTIF",
     "IED EjCAPITAL LETTER LITTLE YUSjSMALL LETTER LITTLE YUSjCAPITAL LETTER IOTIFIED LITTLE YUSjS",
     "MALL LETTER IOTIFIED LITTLE YUSjCAPITAL LETTER BIG YUSjSMALL LETTER BIG YUSjCAPITAL LETTER I",
     "OTIFIED BIG YUSjSMALL LETTER IOTIFIED BIG YUSjCAPITAL LETTER KSIjSMALL LETTER KSIjCAPITAL LE",
     "TTER PSIjSMALL LETTER PSIjCAPITAL LETTER FITAjSMALL LETTER FITAjCAPITAL LETTER IZHITSAjSMALL",
     " LETTER IZHITSAjCAPITAL LETTER IZHITSA WITH DOUBLE GRAVE ACCENTjSMALL LETTER IZHITSA WITH DO",
     "UBLE GRAVE ACCENTjCAPITAL LETTER UKjSMALL LETTER UKjCAPITAL LETTER ROUND OMEGAjSMALL LETTER ",
     "ROUND OMEGAjCAPITAL LETTER OMEGA WITH TITLOjSMALL LETTER OMEGA WITH TITLOjCAPITAL LETTER OTj",
     "SMALL LETTER OTjCAPITAL LETTER KOPPAjSMALL LETTER KOPPAjTHOUSANDS SIGNbOMBINING CYRILLIC TIT",
     "LOtPALATALIZATIONtDASIA PNEUMATAtPSILI PNEUMATAuOKRYTIEtHUNDRED THOUSANDS SIGNtMILLIONS SIGN",
     "bYRILLIC CAPITAL LETTER SHORT I WITH TAILjSMALL LETTER SHORT I WITH TAILjCAPITAL LETTER SEMI",
     "SOFT SIGNjSMALL LETTER SEMISOFT SIGNjCAPITAL LETTER ER WITH TICKjSMALL LETTER ER WITH TICKjC",
     "APITAL LETTER GHE WITH UPTURNjSMALL LETTER GHE WITH UPTURNjCAPITAL LETTER GHE WITH STROKEjSM",
     "ALL LETTER GHE WITH STROKEjCAPITAL LETTER GHE WITH MIDDLE HOOKjSMALL LETTER GHE WITH MIDDLE ",
     "HOOKjCAPITAL LETTER ZHE WITH DESCENDERjSMALL LETTER ZHE WITH DESCENDERjCAPITAL LETTER ZE WIT",
     "H DESCENDERjSMALL LETTER ZE WITH DESCENDERjCAPITAL LETTER KA WITH DESCENDERjSMALL LETTER KA ",
     "WITH DESCENDERjCAPITAL LETTER KA WITH VERTICAL STROKEjSMALL LETTER KA WITH VERTICAL STROKEjC",
     "APITAL LETTER KA WITH STROKEjSMALL LETTER KA WITH STROKEjCAPITAL LETTER BASHKIR KAjSMALL LET",
     "TER BASHKIR KAjCAPITAL LETTER EN WITH DESCENDERjSMALL LETTER EN WITH DESCENDERjCAPITAL LIGAT",
     "URE EN GHEjSMALL LIGATURE EN GHEjCAPITAL LETTER PE WITH MIDDLE HOOKjSMALL LETTER PE WITH MID",
     "DLE HOOKjCAPITAL LETTER ABKHASIAN HAjSMALL LETTER ABKHASIAN HAjCAPITAL LETTER ES WITH DESCEN",
     "DERjSMALL LETTER ES WITH DESCENDERjCAPITAL LETTER TE WITH DESCENDERjSMALL LETTER TE WITH DES",
     "CENDERjCAPITAL LETTER STRAIGHT UjSMALL LETTER STRAIGHT UjCAPITAL LETTER STRAIGHT U WITH STRO",
     "KEjSMALL LETTER STRAIGHT U WITH STROKEjCAPITAL LETTER HA WITH DESCENDERjSMALL LETTER HA WITH",
     " DESCENDERjCAPITAL LIGATURE TE TSEjSMALL LIGATURE TE TSEjCAPITAL LETTER CHE WITH DESCENDERjS",
     "MALL LETTER CHE WITH DESCENDERjCAPITAL LETTER CHE WITH VERTICAL STROKEjSMALL LETTER CHE WITH",
     " VERTICAL STROKEjCAPITAL LETTER SHHAjSMALL LETTER SHHAjCAPITAL LETTER ABKHASIAN CHEjSMALL LE",
     "TTER ABKHASIAN CHEjCAPITAL LETTER ABKHASIAN CHE WITH DESCENDERjSMALL LETTER ABKHASIAN CHE WI",
     "TH DESCENDERjLETTER PALOCHKAjCAPITAL LETTER ZHE WITH BREVEjSMALL LETTER ZHE WITH BREVEjCAPIT",
     "AL LETTER KA WITH HOOKjSMALL LETTER KA WITH HOOKjCAPITAL LETTER EL WITH TAILjSMALL LETTER EL",
     " WITH TAILjCAPITAL LETTER EN WITH HOOKjSMALL LETTER EN WITH HOOKjCAPITAL LETTER EN WITH TAIL",
     "jSMALL LETTER EN WITH TAILjCAPITAL LETTER KHAKASSIAN CHEjSMALL LETTER KHAKASSIAN CHEjCAPITAL",
     " LETTER EM WITH TAILjSMALL LETTER EM WITH TAILwPALOCHKAjCAPITAL LETTER A WITH BREVEjSMALL LE",
     "TTER A WITH BREVEjCAPITAL LETTER A WITH DIAERESISjSMALL LETTER A WITH DIAERESISjCAPITAL LIGA",
     "TURE A IEjSMALL LIGATURE A IEjCAPITAL LETTER IE WITH BREVEjSMALL LETTER IE WITH BREVEjCAPITA",
     "L LETTER SCHWAjSMALL LETTER SCHWAjCAPITAL LETTER SCHWA WITH DIAERESISjSMALL LETTER SCHWA WIT",
     "H DIAERESISjCAPITAL LETTER ZHE WITH DIAERESISjSMALL LETTER ZHE WITH DIAERESISjCAPITAL LETTER",
     " ZE WITH DIAERESISjSMALL LETTER ZE WITH DIAERESISjCAPITAL LETTER ABKHASIAN DZEjSMALL LETTER ",
     "ABKHASIAN DZEjCAPITAL LETTER I WITH MACRONjSMALL LETTER I WITH MACRONjCAPITAL LETTER I WITH ",
     "DIAERESISjSMALL LETTER I WITH DIAERESISjCAPITAL LETTER O WITH DIAERESISjSMALL LETTER O WITH ",
     "DIAERESISjCAPITAL LETTER BARRED OjSMALL LETTER BARRED OjCAPITAL LETTER BARRED O WITH DIAERES",
     "ISjSMALL LETTER BARRED O WITH DIAERESISjCAPITAL LETTER E WITH DIAERESISjSMALL LETTER E WITH ",
     "DIAERESISjCAPITAL LETTER U WITH MACRONjSMALL LETTER U WITH MACRONjCAPITAL LETTER U WITH DIAE",
     "RESISjSMALL LETTER U WITH DIAERESISjCAPITAL LETTER U WITH DOUBLE ACUTEjSMALL LETTER U WITH D",
     "OUBLE ACUTEjCAPITAL LETTER CHE WITH DIAERESISjSMALL LETTER CHE WITH DIAERESISjCAPITAL LETTER",
     " GHE WITH DESCENDERjSMALL LETTER GHE WITH DESCENDERjCAPITAL LETTER YERU WITH DIAERESISjSMALL",
     " LETTER YERU WITH DIAERESISjCAPITAL LETTER GHE WITH STROKE AND HOOKjSMALL LETTER GHE WITH ST",
     "ROKE AND HOOKjCAPITAL LETTER HA WITH HOOKjSMALL LETTER HA WITH HOOKjCAPITAL LETTER HA WITH S",
     "TROKEjSMALL LETTER HA WITH STROKEjCAPITAL LETTER KOMI DEjSMALL LETTER KOMI DEjCAPITAL LETTER",
     " KOMI DJEjSMALL LETTER KOMI DJEjCAPITAL LETTER KOMI ZJEjSMALL LETTER KOMI ZJEjCAPITAL LETTER",
     " KOMI DZJEjSMALL LETTER KOMI DZJEjCAPITAL LETTER KOMI LJEjSMALL LETTER KOMI LJEjCAPITAL LETT",
     "ER KOMI NJEjSMALL LETTER KOMI NJEjCAPITAL LETTER KOMI SJEjSMALL LETTER KOMI SJEjCAPITAL LETT",
     "ER KOMI TJEjSMALL LETTER KOMI TJEjCAPITAL LETTER REVERSED ZEjSMALL LETTER REVERSED ZEjCAPITA",
     "L LETTER EL WITH HOOKjSMALL LETTER EL WITH HOOKjCAPITAL LETTER LHAjSMALL LETTER LHAjCAPITAL ",
     "LETTER RHAjSMALL LETTER RHAjCAPITAL LETTER YAEjSMALL LETTER YAEjCAPITAL LETTER QAjSMALL LETT",
     "ER QAjCAPITAL LETTER WEjSMALL LETTER WEjCAPITAL LETTER ALEUT KAjSMALL LETTER ALEUT KAjCAPITA",
     "L LETTER EL WITH MIDDLE HOOKjSMALL LETTER EL WITH MIDDLE HOOKjCAPITAL LETTER EN WITH MIDDLE ",
     "HOOKjSMALL LETTER EN WITH MIDDLE HOOKjCAPITAL LETTER PE WITH DESCENDERjSMALL LETTER PE WITH ",
     "DESCENDERjCAPITAL LETTER SHHA WITH DESCENDERjSMALL LETTER SHHA WITH DESCENDERjCAPITAL LETTER",
     " EN WITH LEFT HOOKjSMALL LETTER EN WITH LEFT HOOKjCAPITAL LETTER DZZHEjSMALL LETTER DZZHEjCA",
     "PITAL LETTER DCHEjSMALL LETTER DCHEjCAPITAL LETTER EL WITH DESCENDERjSMALL LETTER EL WITH DE",
     "SCENDER"]⟩,
   ⟨1329, ["aARMENIAN CAPITAL LETTER AYByBENyGIMyDAyECHyZAyEHzaTyTOyZHEyINIyLIWNyXEHyCAyKENyHOyJAy",
     "GHADyCHEHyMENyYIyNOWySHAyVOyCHAyPEHyJHEHyRAySEHyVEWyTIWNyREHyCOyYIWNyPIWRyKEHyOHyFEH"]⟩,
   ⟨1369, ["aARMENIAN MODIFIER LETTER LEFT HALF RINGjAPOSTROPHEjEMPHASIS MARKkXCLAMATION MARKjCOMM",
     "AjQUESTION MARKjABBREVIATION MARKjSMALL LETTER TURNED AYBwAYBwBENwGIMwDAwECHwZAwEHxTwTOwZHEw",
     "INIwLIWNwXEHwCAwKENwHOwJAwGHADwCHEHwMENwYIwNOWwSHAwVOwCHAwPEHwJHEHwRAwSEHwVEWwTIWNwREHwCOwYI",
     "WNwPIWRwKEHwOHwFEHqIGATURE ECH YIWNqETTER YI WITH STROKEjFULL STOPjHYPHEN"]⟩,
   ⟨1421, ["aRIGHT-FACING ARMENIAN ETERNITY SIGNaLEFT-FACING ARMENIAN ETERNITY SIGNaARMENIAN DRAM ",
     "SIGN"]⟩,
   ⟨1425, ["aHEBREW ACCENT ETNAHTAoSEGOLpHALSHELEToZAQEF QATANuGADOLoTIPEHAoREVIAoZARQAoPASHTAoYET",
     "IVoTEVIRoGERESHu MUQDAMrSHAYIMoQARNEY PARAoTELISHA GEDOLAoPAZERoATNAH HAFUKHoMUNAHpAHAPAKHpE",
     "RKHAu KEFULAoDARGAoQADMAoTELISHA QETANAoYERAH BEN YOMOoOLEoILUYoDEHIoZINORhMARK MASORA CIRCL",
     "EhPOINT SHEVAnHATAF SEGOLtPATAHtQAMATSoIRIQnTSEREnSEGOLnPATAHnQAMATSnHOLAMs HASER FOR VAVnQU",
     "BUTSnDAGESH OR MAPIQnMETEGiUNCTUATION MAQAFiOINT RAFEiUNCTUATION PASEQiOINT SHIN DOToIN DOTi",
     "UNCTUATION SOF PASUQhMARK UPPER DOTmLOWER DOThPUNCTUATION NUN HAFUKHAiOINT QAMATS QATAN"]⟩,
   ⟨1488, ["aHEBREW LETTER ALEFoBEToGIMELoDALEToHEoVAVoZAYINoHEToTEToYODoFINAL KAFoKAFoLAMEDoFINAL",
     " MEMoMEMoFINAL NUNoNUNoSAMEKHoAYINoFINAL PEoPEoFINAL TSADIoTSADIoQOFoRESHoSHINoTAV"]⟩,
   ⟨1519, ["aHEBREW YOD TRIANGLEhLIGATURE YIDDISH DOUBLE VAVyVAV YODyDOUBLE YODhPUNCTUATION GERESH",
     "wSHAYIM"]⟩,
   ⟨1536, ["aARABIC NUMBER SIGNhSIGN SANAHhFOOTNOTE MARKERhSIGN SAFHAoMVAThNUMBER MARK ABOVEg-INDI",
     "C CUBE ROOTnFOURTH ROOTg RAYg-INDIC PER MILLE SIGNrTEN THOUSAND SIGNbFGHANI SIGNbRABIC COMMA",
     "hDATE SEPARATORhPOETIC VERSE SIGNhSIGN MISRAmSALLALLAHOU ALAYHE WASSALLAMmALAYHE ASSALLAMmRA",
     "HMATULLAH ALAYHEoDI ALLAHOU ANHUmTAKHALLUSiMALL HIGH TAHsLIGATURE ALEF WITH LAM WITH YEHsZAI",
     "NnFATHAnDAMMAnKASRAiEMICOLONhLETTER MARKhEND OF TEXT MARKhTRIPLE DOT PUNCTUATION MARKhQUESTI",
     "ON MARKhLETTER KASHMIRI YEHoHAMZAoALEF WITH MADDA ABOVEyHAMZA ABOVEoWAW WITH HAMZA ABOVEoALE",
     "F WITH HAMZA BELOWoYEH WITH HAMZA ABOVEoALEFoBEHoTEH MARBUTArpHEHoJEEMoHAHoKHAHoDALoTHALoREH",
     "oZAINoSEENpHEENpADoDADoTAHoZAHoAINoGHAINoKEHEH WITH TWO DOTS ABOVEzbHREE DOTS BELOWoFARSI YE",
     "H WITH INVERTED VzeTWO DOTS ABOVEzfHREE DOTS ABOVEhTATWEELhLETTER FEHoQAFoKAFoLAMoMEEMoNOONo",
     "HEHoWAWoALEF MAKSURAoYEHhFATHATANhDAMMATANhKASRATANhFATHAhDAMMAhKASRAhSHADDAiUKUNhMADDAH ABO",
     "VEhHAMZA ABOVEnBELOWhSUBSCRIPT ALEFhINVERTED DAMMAhMARK NOON GHUNNAhZWARAKAYhVOWEL SIGN SMAL",
     "L V ABOVEsINVERTED SMALL V ABOVEsDOT BELOWhREVERSED DAMMAhFATHA WITH TWO DOTShWAVY HAMZA BEL",
     "OWg-INDIC DIGIT ZEROtONEtTWOuHREEtFOURuIVEtSIXuEVENtEIGHTtNINEg PERCENT SIGNhDECIMAL SEPARAT",
     "ORhTHOUSANDS SEPARATORhFIVE POINTED STARhLETTER DOTLESS BEHwQAFoSUPERSCRIPT ALEFoALEF WASLAu",
     "ITH WAVY HAMZA ABOVEzkBELOWoHIGH HAMZAy ALEFzaWAWoU WITH HAMZA ABOVEoHIGH HAMZA YEHoTTEHsEHo",
     "BEEHoTEH WITH RINGxTHREE DOTS ABOVE DOWNWARDSoPEHoTEHEHoBEHEHoHAH WITH HAMZA ABOVExTWO DOTS ",
     "VERTICAL ABOVEoNYEHoDYEHoHAH WITH THREE DOTS ABOVEoTCHEHtEHoDDALpAL WITH RINGxDOT BELOWzh AN",
     "D SMALL TAHqHALpDAHALpULpAL WITH THREE DOTS ABOVE DOWNWARDSxFOUR DOTS ABOVEoRREHpEH WITH SMA",
     "LL VxRINGxDOT BELOWxSMALL V BELOWxDOT BELOW AND DOT ABOVExTWO DOTS ABOVEoJEHoREH WITH FOUR D",
     "OTS ABOVEoSEEN WITH DOT BELOW AND DOT ABOVEyTHREE DOTS BELOWzp AND THREE DOTS ABOVEpAD WITH ",
     "TWO DOTS BELOWyHREE DOTS ABOVEoTAH WITH THREE DOTS ABOVEoAIN WITH THREE DOTS ABOVEoDOTLESS F",
     "EHoFEH WITH DOT MOVED BELOWzcBELOWoVEHoFEH WITH THREE DOTS BELOWoPEHEHoQAF WITH DOT ABOVExTH",
     "REE DOTS ABOVEoKEHEHoSWASH KAFoKAF WITH RINGxDOT ABOVEoNGoKAF WITH THREE DOTS BELOWoGAFr WIT",
     "H RINGoNGOEHoGAF WITH TWO DOTS BELOWpUEHpAF WITH THREE DOTS ABOVEoLAM WITH SMALL VxDOT ABOVE",
     "xTHREE DOTS ABOVEzjBELOWoNOON WITH DOT BELOWtGHUNNAoRNOONoNOON WITH RINGyTHREE DOTS ABOVEoHE",
     "H DOACHASHMEEoTCHEH WITH DOT ABOVEoHEH WITH YEH ABOVEsGOALw WITH HAMZA ABOVEoTEH MARBUTA GOA",
     "LoWAW WITH RINGoKIRGHIZ OEoOEoUoYUoKIRGHIZ YUoWAW WITH TWO DOTS ABOVEoVEoFARSI YEHoYEH WITH ",
     "TAILxSMALL VoWAW WITH DOT ABOVEoEoYEH WITH THREE DOTS BELOWsBARREEy WITH HAMZA ABOVEhFULL ST",
     "OPhLETTER AEhSMALL HIGH LIGATURE SAD WITH LAM WITH ALEF MAKSURAzcQAF WITH LAM WITH ALEF MAKS",
     "URAsMEEM INITIAL FORMsLAM ALEFsJEEMsTHREE DOTSsSEENhEND OF AYAHhSTART OF RUB EL HIZBiMALL HI",
     "GH ROUNDED ZEROsUPRIGHT RECTANGULAR ZEROsDOTLESS HEAD OF KHAHsMEEM ISOLATED FORMnLOW SEENnHI",
     "GH MADDAnWAWnYEHnHIGH YEHsNOONhPLACE OF SAJDAHhEMPTY CENTRE LOW STOPuHIGH STOPhROUNDED HIGH ",
     "STOP WITH FILLED CENTREhSMALL LOW MEEMhLETTER DAL WITH INVERTED VoREH WITH INVERTED VaEXTEND",
     "ED ARABIC-INDIC DIGIT ZEROzdONEzdTWOzeHREEzdFOURzeIVEzdSIXzeEVENzdEIGHTzdNINEaARABIC LETTER ",
     "SHEEN WITH DOT BELOWoDAD WITH DOT BELOWoGHAIN WITH DOT BELOWhSIGN SINDHI AMPERSANDtPOSTPOSIT",
     "ION MENhLETTER HEH WITH INVERTED VaSYRIAC END OF PARAGRAPHhSUPRALINEAR FULL STOPjBLINEAR FUL",
     "L STOPjPRALINEAR COLONjBLINEAR COLONhHORIZONTAL COLONhCOLON SKEWED LEFTuRIGHThSUPRALINEAR CO",
     "LON SKEWED LEFTjBLINEAR COLON SKEWED RIGHThCONTRACTIONhHARKLEAN OBELUSqMETOBELUSqASTERISCU",
     "S"]⟩,
   ⟨1807, ["aSYRIAC ABBREVIATION MARKhLETTER ALAPHoSUPERSCRIPT ALAPHoBETHoGAMALt GARSHUNIoDALATHpO",
     "TLESS DALATH RISHoHEoWAWoZAINoHETHoTETHs GARSHUNIoYUDHs HEoKAPHoLAMADHoMIMoNUNoSEMKATHoFINAL",
     " SEMKATHoEoPEoREVERSED PEoSADHEoQAPHoRISHoSHINoTAWoPERSIAN BHETHwGHAMALwDHALATHhPTHAHA ABOVE",
     "oBELOWoDOTTEDhZQAPHA ABOVEoBELOWoDOTTEDhRBASA ABOVEnBELOWhDOTTED ZLAMA HORIZONTALuANGULARhHB",
     "ASA ABOVEnBELOWm-ESASA DOTTEDhESASA ABOVEnBELOWhRWAHAhFEMININE DOThQUSHSHAYAhRUKKAKHAhTWO VE",
     "RTICAL DOTS ABOVEzaBELOWiHREE DOTS ABOVEsBELOWhOBLIQUE LINE ABOVEuBELOWhMUSIChBARREKH"]⟩,
   ⟨1869, ["aSYRIAC LETTER SOGDIAN ZHAINwKHAPHwFEaARABIC LETTER BEH WITH THREE DOTS HORIZONTALLY B",
     "ELOWxDOT BELOW AND THREE DOTS ABOVExTHREE DOTS POINTING UPWARDS BELOWzzg AND TWO DOTS ABOVEy",
     "WO DOTS BELOW AND DOT ABOVExINVERTED SMALL V BELOWxSMALL VoHAH WITH TWO DOTS ABOVEyHREE DOTS",
     " POINTING UPWARDS BELOWoDAL WITH TWO DOTS VERTICALLY BELOW AND SMALL TAHxINVERTED SMALL V BE",
     "LOWoREH WITH STROKEoSEEN WITH FOUR DOTS ABOVEoAIN WITH TWO DOTS ABOVEyHREE DOTS POINTING DOW",
     "NWARDS ABOVEyWO DOTS VERTICALLY ABOVEoFEH WITH TWO DOTS BELOWyHREE DOTS POINTING UPWARDS BEL",
     "OWoKEHEH WITH DOT ABOVEzaTHREE DOTS ABOVEzlPOINTING UPWARDS BELOWoMEEM WITH DOT ABOVEzdBELOW",
     "oNOON WITH TWO DOTS BELOWySMALL TAHzfVoLAM WITH BARoREH WITH TWO DOTS VERTICALLY ABOVExHAMZA",
     " ABOVEoSEEN WITH TWO DOTS VERTICALLY ABOVEoHAH WITH SMALL ARABIC LETTER TAH BELOWzwAND TWO D",
     "OTSoSEEN WITH SMALL ARABIC LETTER TAH AND TWO DOTSoREH WITH SMALL ARABIC LETTER TAH AND TWO ",
     "DOTSoHAH WITH SMALL ARABIC LETTER TAH ABOVEoALEF WITH EXTENDED ARABIC-INDIC DIGIT TWO ABOVEz",
     "zdHREE ABOVEoFARSI YEH WITH EXTENDED ARABIC-INDIC DIGIT TWO ABOVEzziHREE ABOVEzzhFOUR BELOWo",
     "WAW WITH EXTENDED ARABIC-INDIC DIGIT TWO ABOVEzzcHREE ABOVEoYEH BARREE WITH EXTENDED ARABIC-",
     "INDIC DIGIT TWO ABOVEzzjHREE ABOVEoHAH WITH EXTENDED ARABIC-INDIC DIGIT FOUR BELOWoSEEN WITH",
     " EXTENDED ARABIC-INDIC DIGIT FOUR ABOVEyINVERTED VoKAF WITH TWO DOTS ABOVEaTHAANA LETTER HAA",
     "oSHAVIYANIoNOONUoRAAoBAAoLHAVIYANIoKAAFUoALIFUoVAAVUoMEEMUoFAAFUoDHAALUoTHAAoLAAMUoGAAFUpNAV",
     "IYANIoSEENUoDAVIYANIoZAVIYANIoTAVIYANIoYAAoPAVIYANIoJAVIYANIoCHAVIYANIoTTAAoHHAAoKHAAoTHAALU",
     "oZAAoSHEENUpAADHUoDAADHUoTOoZOoAINUoGHAINUoQAAFUoWAAVUhABAFILIiABAAFILIhIBIFILIhEEBEEFILIhUB",
     "UFILIhOOBOOFILIhEBEFILIiYBEYFILIhOBOFILIiABOAFILIhSUKUNhLETTER NAA"]⟩,
   ⟨1984, ["aNKO DIGIT ZEROkONEkTWOlHREEkFOURlIVEkSIXlEVENkEIGHTkNINEeLETTER AlEElIlElUlOOmlDAGBAS",
     "INNAlNlBAlPAlTAlJAlCHAlDAlRAmRAlSAlGBAlFAlKAlLAlNA WOLOSOlMAlNYAmAlHAlWAlYAlNYA WOLOSOlJONA ",
     "JAqCHAqRAeCOMBINING SHORT HIGH TONEuLOW TONEuRISING TONEoLONG DESCENDING TONEtHIGH TONEtLOW ",
     "TONEtRISING TONEoNASALIZATION MARKoDOUBLE DOT ABOVEeHIGH TONE APOSTROPHEeLOW TONE APOSTROPHE",
     "eSYMBOL OO DENNENlGBAKURUNENeCOMMAeEXCLAMATION MARKeLAJANYALAN"]⟩,
   ⟨2045, ["aNKO DANTAYALANfOROME SIGNeTAMAN SIGNaSAMARITAN LETTER ALAFrBITrGAMANrDALATrIYrBAArZEN",
     "rITrTITrYUTrKAAFrLABATrMIMrNUNrSINGAATrINrFIrTSAADIYrQUFrRISHrSHANrTAAFkMARK INr-ALAFpOCCLUS",
     "IONpDAGESHlODIFIER LETTER EPENTHETIC YUTlARK EPENTHETIC YUTkVOWEL SIGN LONG EvEvOVERLONG AAv",
     "LONG AAvAAvOVERLONG AvLONG AvAkMODIFIER LETTER SHORT AkVOWEL SIGN SHORT AvLONG UvUkMODIFIER ",
     "LETTER IkVOWEL SIGN LONG IvIvOvSUKUNkMARK NEQUDAA"]⟩,
   ⟨2096, ["aSAMARITAN PUNCTUATION NEQUDAAwAFSAAQxNGEDwBAUwATMAAUwSHIYYAALAAkABBREVIATION MARKkPUN",
     "CTUATION MELODIC QITSAwZIQAAwQITSAwZAEFwTURUwARKAANUwSOF MASHFAATwANNAAU"]⟩,
   ⟨2112, ["aMANDAIC LETTER HALQApABqGqDqHpUSHENNApAZpITpATTqKSArqLqMqNqSpINpAPqSZqQqRqSHqTpDUSHEN",
     "NApKADpAINiAFFRICATION MARKiVOCALIZATION MARKiGEMINATION MARK"]⟩,
   ⟨2142, ["aMANDAIC PUNCTUATION"]⟩,
   ⟨2144, ["aSYRIAC LETTER MALAYALAM NGAyJAyNYAyTTAyNNAzbNAyBHAyRAyLLAzbLAySSA"]⟩,
   ⟨2160, ["aARABIC LETTER ALEF WITH ATTACHED FATHAziTOP RIGHT FATHAyRIGHT MIDDLE STROKEyLEFT MIDD",
     "LE STROKEyATTACHED KASRAziBOTTOM RIGHT KASRAziROUND DOT ABOVEzjIGHT ROUND DOTziLEFT ROUND DO",
     "TziROUND DOT BELOWyDOT ABOVEyATTACHED TOP RIGHT FATHA AND DOT ABOVEyRIGHT MIDDLE STROKE AND ",
     "DOT ABOVEyATTACHED BOTTOM RIGHT KASRA AND DOT ABOVEziTOP RIGHT FATHA AND LEFT RINGyRIGHT MID",
     "DLE STROKE AND LEFT RINGyATTACHED BOTTOM RIGHT KASRA AND LEFT RINGziRIGHT HAMZAziLEFT HAMZAh",
     "TATWEEL WITH OVERSTRUCK HAMZAzgWAWuTWO DOTS BELOWhLETTER THIN YEHhBASELINE ROUND DOThRAISED ",
     "ROUND DOThLETTER NOON WITH INVERTED SMALL VoHAH WITH INVERTED SMALL V BELOWoTAH WITH DOT BEL",
     "OWxTHREE DOTS BELOWoKEHEH WITH TWO DOTS VERTICALLY BELOWhVERTICAL TAIL"]⟩,
   ⟨2192, ["aARABIC POUND MARK ABOVEiIASTRE MARK ABOVE"]⟩,
   ⟨2200, ["aARABIC SMALL HIGH WORD AL-JUZnLOW WORD ISHMAAMxMAALAwTASHEELhMADDA WAAJIBhSUPERSCRIPT",
     " ALEF MOKHASSAShDOUBLED MADDAhHALF MADDA OVER MADDAhLETTER BEH WITH SMALL V BELOWxHAMZA ABOV",
     "EoJEEM WITH TWO DOTS ABOVEoTAH WITH TWO DOTS ABOVEoFEH WITH DOT BELOW AND THREE DOTS ABOVEoQ",
     "AF WITH DOT BELOWoLAM WITH DOUBLE BARoMEEM WITH THREE DOTS ABOVEoYEH WITH TWO DOTS BELOW AND",
     " HAMZA ABOVEzrDOT ABOVEoREH WITH LOOPoWAW WITH DOT WITHINoROHINGYA YEHoLOW ALEFoDAL WITH THR",
     "EE DOTS BELOWoSAD WITH THREE DOTS BELOWoGAF WITH INVERTED STROKEoSTRAIGHT WAWoZAIN WITH INVE",
     "RTED V ABOVEoAIN WITH THREE DOTS BELOWoKAF WITH DOT BELOWoQAF WITH DOT BELOW AND NO DOTS ABO",
     "VEoBEH WITH SMALL MEEM ABOVEoPEH WITH SMALL MEEM ABOVEoTEH WITH SMALL TEH ABOVEoREH WITH SMA",
     "LL NOON ABOVEoYEH WITH TWO DOTS BELOW AND SMALL NOON ABOVEoAFRICAN FEHwQAFwNOONoPEH WITH SMA",
     "LL VoTEH WITH SMALL VpTEH WITH SMALL VpCHEH WITH SMALL VoKEHEH WITH SMALL VoGHAIN WITH THREE",
     " DOTS ABOVEoAFRICAN QAF WITH THREE DOTS ABOVEoJEEM WITH THREE DOTS ABOVEzkBELOWoLAM WITH SMA",
     "LL ARABIC LETTER TAH ABOVEoGRAFhSMALL FARSI YEHnHIGH FARSI YEHsYEH BARREE WITH TWO DOTS BELO",
     "WsWORD SAHsZAHhLARGE ROUND DOT ABOVExBELOWhSUKUN BELOWhLARGE CIRCLE BELOWnROUND DOT INSIDE C",
     "IRCLE BELOWhSMALL LOW WAWnHIGH WORD AR-RUBsSADsAINsQAFsNOON WITH KASRAnLOW NOON WITH KASRAnH",
     "IGH WORD ATH-THALATHAyS-SAJDAyN-NISFxSAKTAxQIFxWAQFAsFOOTNOTE MARKERsSIGN SAFHAhDISPUTED END",
     " OF AYAHhTURNED DAMMA BELOWhCURLY FATHAnDAMMAnKASRAnFATHATANnDAMMATANnKASRATANhTONE ONE DOT ",
     "ABOVEmTWO DOTS ABOVEmLOOP ABOVEmONE DOT BELOWmTWO DOTS BELOWmLOOP BELOWhOPEN FATHATANmDAMMAT",
     "ANmKASRATANhSMALL HIGH WAWhFATHA WITH RINGsDOT ABOVEhKASRA WITH DOT BELOWhLEFT ARROWHEAD ABO",
     "VEhRIGHT ARROWHEAD ABOVEhLEFT ARROWHEAD BELOWhRIGHT ARROWHEAD BELOWhDOUBLE RIGHT ARROWHEAD A",
     "BOVEzk WITH DOThRIGHT ARROWHEAD ABOVE WITH DOThDAMMA WITH DOThMARK SIDEWAYS NOON GHUNNAaDEVA",
     "NAGARI SIGN INVERTED CANDRABINDUqCANDRABINDUqANUSVARAqVISARGAlLETTER SHORT AsAtAsItIsUtUsVOC",
     "ALIC RzbLsCANDRA EsSHORT EsEsAIsCANDRA OsSHORT OsOsAUsKAtHAsGAtHAsNGAsCAtHAsJAtHAsNYAsTTAuHA",
     "sDDAuHAsNNAsTAtHAsDAtHAsNAtNNAsPAtHAsBAtHAsMAsYAsRAtRAsLAtLAuLAsVAsSHAtSAtAsHAlVOWEL SIGN OE",
     "xOElSIGN NUKTAqAVAGRAHAlVOWEL SIGN AAwIxIwUxUwVOCALIC RzgRwCANDRA EwSHORT EwEwAIwCANDRA OwSH",
     "ORT OwOwAUlSIGN VIRAMAlVOWEL SIGN PRISHTHAMATRA EwAWlOMlSTRESS SIGN UDATTAxANUDATTAlGRAVE AC",
     "CENTlACUTE ACCENTlVOWEL SIGN CANDRA LONG EwUExUElLETTER QAsKHHAsGHHAsZAsDDDHAsRHAsFAsYYAsVOC",
     "ALIC RRzbLLlVOWEL SIGN VOCALIC LzgLlDANDAmOUBLE DANDAmIGIT ZEROrONErTWOsHREErFOURsIVErSIXsEV",
     "ENrEIGHTrNINElABBREVIATION SIGNlSIGN HIGH SPACING DOTlLETTER CANDRA AsOEtOEsAWsUEtUEsMARWARI",
     " DDAsZHAsHEAVY YAsGGAsJJAsGLOTTAL STOPsDDDAsBBAaBENGALI ANJIiSIGN CANDRABINDUnANUSVARAnVISAR",
     "GA"]⟩,
   ⟨2437, ["aBENGALI LETTER AqApIqIpUqUpVOCALIC RxL"]⟩,
   ⟨2447, ["aBENGALI LETTER EpAI"]⟩,
   ⟨2451, ["aBENGALI LETTER OpAUpKAqHApGAqHApNGApCAqHApJAqHApNYApTTArHApDDArHApNNApTAqHApDAqHApN",
     "A"]⟩,
   ⟨2474, ["aBENGALI LETTER PAqHApBAqHApMApYApRA"]⟩,
   ⟨2482, ["aBENGALI LETTER LA"]⟩,
   ⟨2486, ["aBENGALI LETTER SHAqSAqApHA"]⟩,
   ⟨2492, ["aBENGALI SIGN NUKTAnAVAGRAHAiVOWEL SIGN AAtIuItUuUtVOCALIC RzdR"]⟩,
   ⟨2503, ["aBENGALI VOWEL SIGN EtAI"]⟩,
   ⟨2507, ["aBENGALI VOWEL SIGN OtAUiSIGN VIRAMAiLETTER KHANDA TA"]⟩,
   ⟨2519, ["aBENGALI AU LENGTH MARK"]⟩,
   ⟨2524, ["aBENGALI LETTER RRAqHA"]⟩,
   ⟨2527, ["aBENGALI LETTER YYApVOCALIC RRxLLiVOWEL SIGN VOCALIC LzdL"]⟩,
   ⟨2534, ["aBENGALI DIGIT ZEROoONEoTWOpHREEoFOURpIVEoSIXpEVENoEIGHToNINEiLETTER RA WITH MIDDLE DI",
     "AGONALxLOWER DIAGONALiRUPEE MARKoSIGNiCURRENCY NUMERATOR ONEzcTWOzdHREEzcFOURzcONE LESS THAN",
     " THE DENOMINATORrDENOMINATOR SIXTEENiISSHARiGANDA MARKiLETTER VEDIC ANUSVARAiABBREVIATION SI",
     "GNiSANDHI MARK"]⟩,
   ⟨2561, ["aGURMUKHI SIGN ADAK BINDIoBINDIoVISARGA"]⟩,
   ⟨2565, ["aGURMUKHI LETTER ArAqIrIqUrU"]⟩,
   ⟨2575, ["aGURMUKHI LETTER EEqAI"]⟩,
   ⟨2579, ["aGURMUKHI LETTER OOqAUqKArHAqGArHAqNGAqCArHAqJArHAqNYAqTTAsHAqDDAsHAqNNAqTArHAqDArHAqN",
     "A"]⟩,
   ⟨2602, ["aGURMUKHI LETTER PArHAqBArHAqMAqYAqRA"]⟩,
   ⟨2610, ["aGURMUKHI LETTER LArLA"]⟩,
   ⟨2613, ["aGURMUKHI LETTER VAqSHA"]⟩,
   ⟨2616, ["aGURMUKHI LETTER SAqHA"]⟩,
   ⟨2620, ["aGURMUKHI SIGN NUKTA"]⟩,
   ⟨2622, ["aGURMUKHI VOWEL SIGN AAuIvIuUvU"]⟩,
   ⟨2631, ["aGURMUKHI VOWEL SIGN EEuAI"]⟩,
   ⟨2635, ["aGURMUKHI VOWEL SIGN OOuAUjSIGN VIRAMA"]⟩,
   ⟨2641, ["aGURMUKHI SIGN UDAAT"]⟩,
   ⟨2649, ["aGURMUKHI LETTER KHHAqGHHAqZAqRRA"]⟩,
   ⟨2654, ["aGURMUKHI LETTER FA"]⟩,
   ⟨2662, ["aGURMUKHI DIGIT ZEROpONEpTWOqHREEpFOURqIVEpSIXqEVENpEIGHTpNINEjTIPPIjADDAKjIRIjURAjEK ",
     "ONKARjSIGN YAKASHjABBREVIATION SIGN"]⟩,
   ⟨2689, ["aGUJARATI SIGN CANDRABINDUoANUSVARAoVISARGA"]⟩,
   ⟨2693, ["aGUJARATI LETTER ArAqIrIqUrUqVOCALIC RyLjVOWEL CANDRA E"]⟩,
   ⟨2703, ["aGUJARATI LETTER EqAIjVOWEL CANDRA O"]⟩,
   ⟨2707, ["aGUJARATI LETTER OqAUqKArHAqGArHAqNGAqCArHAqJArHAqNYAqTTAsHAqDDAsHAqNNAqTArHAqDArHAqN",
     "A"]⟩,
   ⟨2730, ["aGUJARATI LETTER PArHAqBArHAqMAqYAqRA"]⟩,
   ⟨2738, ["aGUJARATI LETTER LArLA"]⟩,
   ⟨2741, ["aGUJARATI LETTER VAqSHArSArAqHA"]⟩,
   ⟨2748, ["aGUJARATI SIGN NUKTAoAVAGRAHAjVOWEL SIGN AAuIvIuUvUuVOCALIC RzeRuCANDRA E"]⟩,
   ⟨2759, ["aGUJARATI VOWEL SIGN EuAIuCANDRA O"]⟩,
   ⟨2763, ["aGUJARATI VOWEL SIGN OuAUjSIGN VIRAMA"]⟩,
   ⟨2768, ["aGUJARATI OM"]⟩,
   ⟨2784, ["aGUJARATI LETTER VOCALIC RRyLLjVOWEL SIGN VOCALIC LzeL"]⟩,
   ⟨2790, ["aGUJARATI DIGIT ZEROpONEpTWOqHREEpFOURqIVEpSIXqEVENpEIGHTpNINEjABBREVIATION SIGNjRUPEE",
     " SIGN"]⟩,
   ⟨2809, ["aGUJARATI LETTER ZHAjSIGN SUKUNpHADDAoMADDAHoTHREE-DOT NUKTA ABOVEoCIRCLE NUKTA ABOVEo",
     "TWO-CIRCLE NUKTA ABOVE"]⟩,
   ⟨2817, ["aORIYA SIGN CANDRABINDUlANUSVARAlVISARGA"]⟩,
   ⟨2821, ["aORIYA LETTER AoAnIoInUoUnVOCALIC RvL"]⟩,
   ⟨2831, ["aORIYA LETTER EnAI"]⟩,
   ⟨2835, ["aORIYA LETTER OnAUnKAoHAnGAoHAnNGAnCAoHAnJAoHAnNYAnTTApHAnDDApHAnNNAnTAoHAnDAoHAnNA"]⟩,
   ⟨2858, ["aORIYA LETTER PAoHAnBAoHAnMAnYAnRA"]⟩,
   ⟨2866, ["aORIYA LETTER LAoLA"]⟩,
   ⟨2869, ["aORIYA LETTER VAnSHAoSAoAnHA"]⟩,
   ⟨2876, ["aORIYA SIGN NUKTAlAVAGRAHAgVOWEL SIGN AArIsIrUsUrVOCALIC RzbR"]⟩,
   ⟨2887, ["aORIYA VOWEL SIGN ErAI"]⟩,
   ⟨2891, ["aORIYA VOWEL SIGN OrAUgSIGN VIRAMA"]⟩,
   ⟨2901, ["aORIYA SIGN OVERLINEgAI LENGTH MARKhU LENGTH MARK"]⟩,
   ⟨2908, ["aORIYA LETTER RRAoHA"]⟩,
   ⟨2911, ["aORIYA LETTER YYAnVOCALIC RRvLLgVOWEL SIGN VOCALIC LzbL"]⟩,
   ⟨2918, ["aORIYA DIGIT ZEROmONEmTWOnHREEmFOURnIVEmSIXnEVENmEIGHTmNINEgISSHARgLETTER WAgFRACTION ",
     "ONE QUARTERtHALFpTHREE QUARTERSpONE SIXTEENTHtEIGHTHpTHREE SIXTEENTHS"]⟩,
   ⟨2946, ["aTAMIL SIGN ANUSVARAlVISARGA"]⟩,
   ⟨2949, ["aTAMIL LETTER AoAnIoInUoU"]⟩,
   ⟨2958, ["aTAMIL LETTER EoEnAI"]⟩,
   ⟨2962, ["aTAMIL LETTER OoOnAUnKA"]⟩,
   ⟨2969, ["aTAMIL LETTER NGAnCA"]⟩,
   ⟨2972, ["aTAMIL LETTER JA"]⟩,
   ⟨2974, ["aTAMIL LETTER NYAnTTA"]⟩,
   ⟨2979, ["aTAMIL LETTER NNAnTA"]⟩,
   ⟨2984, ["aTAMIL LETTER NAoNNAnPA"]⟩,
   ⟨2990, ["aTAMIL LETTER MAnYAnRAoRAnLAoLApLAnVAnSHAoSAoAnHA"]⟩,
   ⟨3006, ["aTAMIL VOWEL SIGN AArIsIrUsU"]⟩,
   ⟨3014, ["aTAMIL VOWEL SIGN EsErAI"]⟩,
   ⟨3018, ["aTAMIL VOWEL SIGN OsOrAUgSIGN VIRAMA"]⟩,
   ⟨3024, ["aTAMIL OM"]⟩,
   ⟨3031, ["aTAMIL AU LENGTH MARK"]⟩,
   ⟨3046, ["aTAMIL DIGIT ZEROmONEmTWOnHREEmFOURnIVEmSIXnEVENmEIGHTmNINEgNUMBER TENnONE HUNDREDrTHO",
     "USANDgDAY SIGNgMONTH SIGNgYEAR SIGNgDEBIT SIGNgCREDIT SIGNgAS ABOVE SIGNgRUPEE SIGNgNUMBER S",
     "IGN"]⟩,
   ⟨3072, ["aTELUGU SIGN COMBINING CANDRABINDU ABOVEnANDRABINDUmANUSVARAmVISARGAmCOMBINING ANUSVAR",
     "A ABOVEhLETTER ApAoIpIoUpUoVOCALIC RwL"]⟩,
   ⟨3086, ["aTELUGU LETTER EpEoAI"]⟩,
   ⟨3090, ["aTELUGU LETTER OpOoAUoKApHAoGApHAoNGAoCApHAoJApHAoNYAoTTAqHAoDDAqHAoNNAoTApHAoDApHAoN",
     "A"]⟩,
   ⟨3114, ["aTELUGU LETTER PApHAoBApHAoMAoYAoRApRAoLApLAqLAoVAoSHApSApAoHA"]⟩,
   ⟨3132, ["aTELUGU SIGN NUKTAmAVAGRAHAhVOWEL SIGN AAsItIsUtUsVOCALIC RzcR"]⟩,
   ⟨3142, ["aTELUGU VOWEL SIGN EtEsAI"]⟩,
   ⟨3146, ["aTELUGU VOWEL SIGN OtOsAUhSIGN VIRAMA"]⟩,
   ⟨3157, ["aTELUGU LENGTH MARKhAI LENGTH MARK"]⟩,
   ⟨3160, ["aTELUGU LETTER TSAoDZAoRRRA"]⟩,
   ⟨3165, ["aTELUGU LETTER NAKAARA POLLU"]⟩,
   ⟨3168, ["aTELUGU LETTER VOCALIC RRwLLhVOWEL SIGN VOCALIC LzcL"]⟩,
   ⟨3174, ["aTELUGU DIGIT ZEROnONEnTWOoHREEnFOURoIVEnSIXoEVENnEIGHTnNINE"]⟩,
   ⟨3191, ["aTELUGU SIGN SIDDHAMhFRACTION DIGIT ZERO FOR ODD POWERS OF FOURwONE FOR ODD POWERS OF ",
     "FOURwTWO FOR ODD POWERS OF FOURxHREE FOR ODD POWERS OF FOURwONE FOR EVEN POWERS OF FOURwTWO ",
     "FOR EVEN POWERS OF FOURxHREE FOR EVEN POWERS OF FOURhSIGN TUUMUaKANNADA SIGN SPACING CANDRAB",
     "INDUnCANDRABINDUnANUSVARAnVISARGAnSIDDHAMiLETTER AqApIqIpUqUpVOCALIC RxL"]⟩,
   ⟨3214, ["aKANNADA LETTER EqEpAI"]⟩,
   ⟨3218, ["aKANNADA LETTER OqOpAUpKAqHApGAqHApNGApCAqHApJAqHApNYApTTArHApDDArHApNNApTAqHApDAqHApN",
     "A"]⟩,
   ⟨3242, ["aKANNADA LETTER PAqHApBAqHApMApYApRAqRApLAqLA"]⟩,
   ⟨3253, ["aKANNADA LETTER VApSHAqSAqApHA"]⟩,
   ⟨3260, ["aKANNADA SIGN NUKTAnAVAGRAHAiVOWEL SIGN AAtIuItUuUtVOCALIC RzdR"]⟩,
   ⟨3270, ["aKANNADA VOWEL SIGN EuEtAI"]⟩,
   ⟨3274, ["aKANNADA VOWEL SIGN OuOtAUiSIGN VIRAMA"]⟩,
   ⟨3285, ["aKANNADA LENGTH MARKiAI LENGTH MARK"]⟩,
   ⟨3293, ["aKANNADA LETTER NAKAARA POLLUpFA"]⟩,
   ⟨3296, ["aKANNADA LETTER VOCALIC RRxLLiVOWEL SIGN VOCALIC LzdL"]⟩,
   ⟨3302, ["aKANNADA DIGIT ZEROoONEoTWOpHREEoFOURpIVEoSIXpEVENoEIGHToNINE"]⟩,
   ⟨3313, ["aKANNADA SIGN JIHVAMULIYAnUPADHMANIYA"]⟩,
   ⟨3328, ["aMALAYALAM SIGN COMBINING ANUSVARA ABOVEqANDRABINDUpANUSVARApVISARGAkLETTER VEDIC ANUS",
     "VARArAsArIsIrUsUrVOCALIC RzaL"]⟩,
   ⟨3342, ["aMALAYALAM LETTER EsErAI"]⟩,
   ⟨3346, ["aMALAYALAM LETTER OsOrAUrKAsHArGAsHArNGArCAsHArJAsHArNYArTTAtHArDDAtHArNNArTAsHArDAsHA",
     "rNAsNNArPAsHArBAsHArMArYArRAsRArLAsLAtLArVArSHAsSAsArHArTTTAkSIGN VERTICAL BAR VIRAMApCIRCUL",
     "AR VIRAMApAVAGRAHAkVOWEL SIGN AAvIwIvUwUvVOCALIC RzfR"]⟩,
   ⟨3398, ["aMALAYALAM VOWEL SIGN EwEvAI"]⟩,
   ⟨3402, ["aMALAYALAM VOWEL SIGN OwOvAUkSIGN VIRAMAkLETTER DOT REPHkSIGN PARA"]⟩,
   ⟨3412, ["aMALAYALAM LETTER CHILLU MyYyLLLkAU LENGTH MARKkFRACTION ONE ONE-HUNDRED-AND-SIXTIETHx",
     "FORTIETHtTHREE EIGHTIETHStONE TWENTIETHyENTHtTHREE TWENTIETHStONE FIFTHkLETTER ARCHAIC IIrVO",
     "CALIC RRzaLLkVOWEL SIGN VOCALIC LzfL"]⟩,
   ⟨3430, ["aMALAYALAM DIGIT ZEROqONEqTWOrHREEqFOURrIVEqSIXrEVENqEIGHTqNINEkNUMBER TENrONE HUNDRED",
     "vTHOUSANDkFRACTION ONE QUARTERxHALFtTHREE QUARTERStONE SIXTEENTHxEIGHTHtTHREE SIXTEENTHSkDAT",
     "E MARKkLETTER CHILLU NNzayRRyLzaLyK"]⟩,
   ⟨3457, ["aSINHALA SIGN CANDRABINDUnANUSVARAYAnVISARGAYA"]⟩,
   ⟨3461, ["aSINHALA LETTER AYANNAqAYANNAqEYANNArEYANNApIYANNAqIYANNApUYANNAqUYANNApIRUYANNAsUYANN",
     "AqLUYANNAsUYANNApEYANNAqEYANNApAIYANNApOYANNAqOYANNApAUYANNA"]⟩,
   ⟨3482, ["aSINHALA LETTER ALPAPRAANA KAYANNApMAHAAPRAANA KAYANNApALPAPRAANA GAYANNApMAHAAPRAANA ",
     "GAYANNApKANTAJA NAASIKYAYApSANYAKA GAYANNApALPAPRAANA CAYANNApMAHAAPRAANA CAYANNApALPAPRAANA",
     " JAYANNApMAHAAPRAANA JAYANNApTAALUJA NAASIKYAYAxSANYOOGA NAAKSIKYAYApSANYAKA JAYANNApALPAPRA",
     "ANA TTAYANNApMAHAAPRAANA TTAYANNApALPAPRAANA DDAYANNApMAHAAPRAANA DDAYANNAqUURDHAJA NAYANNAp",
     "SANYAKA DDAYANNApALPAPRAANA TAYANNApMAHAAPRAANA TAYANNApALPAPRAANA DAYANNApMAHAAPRAANA DAYAN",
     "NApDANTAJA NAYANNA"]⟩,
   ⟨3507, ["aSINHALA LETTER SANYAKA DAYANNApALPAPRAANA PAYANNApMAHAAPRAANA PAYANNApALPAPRAANA BAYA",
     "NNApMAHAAPRAANA BAYANNArYANNApAMBA BAYANNApYAYANNApRAYANNA"]⟩,
   ⟨3517, ["aSINHALA LETTER DANTAJA LAYANNA"]⟩,
   ⟨3520, ["aSINHALA LETTER VAYANNApTAALUJA SAYANNApMUURDHAJA SAYANNApDANTAJA SAYANNApHAYANNApMUUR",
     "DHAJA LAYANNApFAYANNA"]⟩,
   ⟨3530, ["aSINHALA SIGN AL-LAKUNA"]⟩,
   ⟨3535, ["aSINHALA VOWEL SIGN AELA-PILLAtKETTI AEDA-PILLAtDIGA AEDA-PILLAtKETTI IS-PILLAtDIGA IS",
     "-PILLAtKETTI PAA-PILLA"]⟩,
   ⟨3542, ["aSINHALA VOWEL SIGN DIGA PAA-PILLA"]⟩,
   ⟨3544, ["aSINHALA VOWEL SIGN GAETTA-PILLAtKOMBUVAtDIGA KOMBUVAtKOMBU DEKAyVA HAA AELA-PILLAzgDI",
     "GA AELA-PILLAzgGAYANUKITTAtGAYANUKITTA"]⟩,
   ⟨3558, ["aSINHALA LITH DIGIT ZEROtONEtTWOuHREEtFOURuIVEtSIXuEVENtEIGHTtNINE"]⟩,
   ⟨3570, ["aSINHALA VOWEL SIGN DIGA GAETTA-PILLAzbYANUKITTAiPUNCTUATION KUNDDALIYA"]⟩,
   ⟨3585, ["aTHAI CHARACTER KO KAIqHO KHAIvUATvWAIvONtRAKHANGpNGO NGUpCHO CHANvINGvANGpSO SOpCHO C",
     "HOEpYO YINGpDO CHADApTO PATAKqHO THANtNANGMONTHOtPHUTHAOpNO NENpDO DEKpTO TAOqHO THUNGvAHANv",
     "ONGpNO NUpBO BAIMAIpPO PLAqHO PHUNGpFO FApPHO PHANpFO FANpPHO SAMPHAOpMO MApYO YAKpRO RUAqUp",
     "LO LINGqUpWO WAENpSO SALAsRUSIsSUApHO HIPpLO CHULApO ANGpHO NOKHUKpPAIYANNOIpSARA ApMAI HAN-",
     "AKATpSARA AAvMuIvIuUEwEvvUpPHINTHU"]⟩,
   ⟨3647, ["aTHAI CURRENCY SYMBOL BAHTgHARACTER SARA EuAEuOuAI MAIMUANzcALAIpLAKKHANGYAOpMAIYAMOKs",
     "TAIKHUs EKtTHOuRItCHATTAWApTHANTHAKHATpNIKHAHITpYAMAKKANpFONGMANfDIGIT ZEROlONElTWOmHREElFOU",
     "RmIVElSIXmEVENlEIGHTlNINEfCHARACTER ANGKHANKHUpKHOMUT"]⟩,
   ⟨3713, ["aLAO LETTER KOmHO SUNG"]⟩,
   ⟨3716, ["aLAO LETTER KHO TAM"]⟩,
   ⟨3718, ["aLAO LETTER PALI GHAlNGOlCOlPALI CHAlSO TAM"]⟩,
   ⟨3724, ["aLAO LETTER PALI JHAlNYOlPALI NYAqTTAsHAqDDAsHAqNNAlDOlTOmHO SUNGpTAMlPALI DHAlNOlBOlP",
     "OmHO SUNGlFO TAMlPHO TAMlFO SUNGlPALI BHAlMOlYOlLO LING"]⟩,
   ⟨3749, ["aLAO LETTER LO LOOT"]⟩,
   ⟨3751, ["aLAO LETTER WOlSANSKRIT SHAvSAmO SUNGlHO SUNGlPALI LLAlOlHO TAMeELLIPSISeVOWEL SIGN Ap",
     "MAI KANpAAqMpIqIpYqYpUqUeSIGN PALI VIRAMAeVOWEL SIGN MAI KONeSEMIVOWEL SIGN LOtNYO"]⟩,
   ⟨3776, ["aLAO VOWEL SIGN EqIpOpAYqI"]⟩,
   ⟨3782, ["aLAO KO LA"]⟩,
   ⟨3784, ["aLAO TONE MAI EKnTHOoInCATAWAeCANCELLATION MARKeNIGGAHITA"]⟩,
   ⟨3792, ["aLAO DIGIT ZEROkONEkTWOlHREEkFOURlIVEkSIXlEVENkEIGHTkNINE"]⟩,
   ⟨3804, ["aLAO HO NOhMOeLETTER KHMU GOqNYO"]⟩,
   ⟨3840, ["aTIBETAN SYLLABLE OMiMARK GTER YIG MGO TRUNCATED Azb-UM RNAM BCAD MAzfGTER TSHEG MAnIN",
     "ITIAL YIG MGO MDUN MAnCLOSING YIG MGO SGAB MAoARET YIG MGO PHUR SHAD MAnYIG MGO TSHEG SHAD M",
     "AnSBRUL SHADnBSKUR YIG MGOoKA- SHOG YIG MGOnINTERSYLLABIC TSHEGnDELIMITER TSHEG BSTARnSHADnN",
     "YIS SHADnTSHEG SHADnNYIS TSHEG SHADnRIN CHEN SPUNGS SHADoGYA GRAM SHADnCARET -DZUD RTAGS ME ",
     "LONG CANnGTER TSHEGiLOGOTYPE SIGN CHAD RTAGSwLHAG RTAGSiASTROLOGICAL SIGN SGRA GCAN -CHAR RT",
     "AGSzb-KHYUD PAzbSDONG TSHUGSiSIGN RDEL DKAR GCIGyNYISySUMsNAG GCIGxNYISsDKAR RDEL NAGiDIGIT ",
     "ZEROoONEoTWOpHREEoFOURpIVEoSIXpEVENoEIGHToNINEoHALF ONEtTWOuHREEtFOURuIVEtSIXuEVENtEIGHTtNIN",
     "EtZEROiMARK BSDUS RTAGSnNGAS BZUNG NYI ZLAnCARET -DZUD RTAGS BZHI MIG CANnNGAS BZUNG SGOR RT",
     "AGSnCHE MGOnTSA -PHRUnGUG RTAGS GYONzaASnANG KHANG GYONzaASiSIGN YAR TSHESnMAR TSHESiLETTER ",
     "KAqHApGAqHApNGApCAqHApJA"]⟩,
   ⟨3913, ["aTIBETAN LETTER NYApTTArHApDDArHApNNApTAqHApDAqHApNApPAqHApBAqHApMApTSArHApDZArHApWApZ",
     "HAqAp-ApYApRApLApSHAqSAqApHApApKSSApFIXED-FORM RApKKApRRA"]⟩,
   ⟨3953, ["aTIBETAN VOWEL SIGN AAtIuItUuUtVOCALIC RzdRzcLzdLtEuEtOuOiSIGN RJES SU NGA ROoNAM BCAD",
     "iVOWEL SIGN REVERSED IzeIiSIGN NYI ZLA NAA DAnSNA LDANiMARK HALANTAnPALUTAiSIGN LCI RTAGSnYA",
     "NG RTAGSnLCE TSA CANnMCHU CANnGRU CAN RGYINGSrMED RGYINGSnINVERTED MCHU CANjUBJOINED SIGN LC",
     "E TSA CANxMCHU CANxINVERTED MCHU CANsLETTER KAzbHAzaGAzbHAzaNGAzaCAzbHAzaJA"]⟩,
   ⟨3993, ["aTIBETAN SUBJOINED LETTER NYAzaTTAzcHAzaDDAzcHAzaNNAzaTAzbHAzaDAzbHAzaNAzaPAzbHAzaBAzb",
     "HAzaMAzaTSAzcHAzaDZAzcHAzaWAzaZHAzbAza-AzaYAzaRAzaLAzaSHAzbSAzbAzaHAzaAzaKSSAzaFIXED-FORM WA",
     "zlYAzlRA"]⟩,
   ⟨4030, ["aTIBETAN KU RU KHAr BZHI MIG CANiCANTILLATION SIGN HEAVY BEATzbLIGHT BEATzbCANG TE-Uzb",
     "SBUB -CHALiSYMBOL DRIL BUpRDO RJEpPADMA GDANpRDO RJE RGYA GRAMpPHUR PApNOR BUv NYIS -KHYILwG",
     "SUM -KHYILwBZHI -KHYIL"]⟩,
   ⟨4046, ["aTIBETAN SIGN RDEL NAG RDEL DKARwGSUMiMARK BSKA- SHOG GI MGO RGYANnMNYAM YIG GI MGO RG",
     "YANnNYIS TSHEGnINITIAL BRDA RNYING YIG MGO MDUN MAnCLOSING BRDA RNYING YIG MGO SGAB MAaRIGHT",
     "-FACING SVASTI SIGNaLEFT-FACING SVASTI SIGNaRIGHT-FACING SVASTI SIGN WITH DOTSaLEFT-FACING S",
     "VASTI SIGN WITH DOTSaTIBETAN MARK LEADING MCHAN RTAGSnTRAILING MCHAN RTAGS"]⟩,
   ⟨4096, ["aMYANMAR LETTER KAqHApGAqHApNGApCAqHApJAqHApNYAqNYApTTArHApDDArHApNNApTAqHApDAqHApNApP",
     "AqHApBAqHApMApYApRApLApWApSApHApLLApApSHAN ApIqIpUqUpEpMON EpOpAUiVOWEL SIGN TALL AAtAAtIuIt",
     "UuUtEtAItMON IIxOtE ABOVEiSIGN ANUSVARAnDOT BELOWnVISARGApRAMAnASATiCONSONANT SIGN MEDIAL YA",
     "zfRAzfWAzfHAiLETTER GREAT SAiDIGIT ZEROoONEoTWOpHREEoFOURpIVEoSIXpEVENoEIGHToNINEiSIGN LITTL",
     "E SECTIONnSECTIONjYMBOL LOCATIVEpCOMPLETEDpAFOREMENTIONEDpGENITIVEiLETTER SHAqSApVOCALIC RyR",
     "xLyLiVOWEL SIGN VOCALIC RzdRzcLzdLiLETTER MON NGAtJHAtBBAvEiCONSONANT SIGN MON MEDIAL NAzjMA",
     "zjLAiLETTER SGAW KAREN SHAiVOWEL SIGN SGAW KAREN EUiTONE MARK SGAW KAREN HATHIzeKE PHOiLETTE",
     "R WESTERN PWO KAREN THAziPWAiVOWEL SIGN WESTERN PWO KAREN EUzmUEiSIGN WESTERN PWO KAREN TONE",
     "-1zl2zl3zl4zl5iLETTER EASTERN PWO KAREN NNAziYWAziGHWAiVOWEL SIGN GEBA KAREN ItKAYAH OEzaUza",
     "EEiLETTER SHAN KAvHAuGAuCAuZAuNYAuDAuNAuPHAuFAuBAuTHAuHAiCONSONANT SIGN SHAN MEDIAL WAiVOWEL",
     " SIGN SHAN AAyEza ABOVEyFINAL YiSIGN SHAN TONE-2x3x5x6sCOUNCIL TONE-2zg3zbEMPHATIC TONEiLETT",
     "ER RUMAI PALAUNG FAiSIGN RUMAI PALAUNG TONE-5jHAN DIGIT ZEROtONEtTWOuHREEtFOURuIVEtSIXuEVENt",
     "EIGHTtNINEjIGN KHAMTI TONE-1za3iVOWEL SIGN AITON AzbIiSYMBOL SHAN ONEuEXCLAMATIONaGEORGIAN C",
     "APITAL LETTER ANyBANyGANyDONyENyVINyZENyTANyINyKANyLASyMANyNARyONyPARyZHARyRAEySANyTARyUNyPH",
     "ARyKHARyGHANyQARySHINyCHINzaANyJILyCILzaHARyXANyJHANyHAEzaEzaIEyWEyHARzaOE"]⟩,
   ⟨4295, ["aGEORGIAN CAPITAL LETTER YN"]⟩,
   ⟨4301, ["aGEORGIAN CAPITAL LETTER AEN"]⟩,
   ⟨4304, ["aGEORGIAN LETTER ANqBANqGANqDONqENqVINqZENqTANqINqKANqLASqMANqNARqONqPARqZHARqRAEqSANq",
     "TARqUNqPHARqKHARqGHANqQARqSHINqCHINrANqJILqCILrHARqXANqJHANqHAErErIEqWEqHARrOEqFIqYNqELIFIqT",
     "URNED GANqAINjPARAGRAPH SEPARATORaMODIFIER LETTER GEORGIAN NARaGEORGIAN LETTER AENqHARD SIGN",
     "qLABIAL SIGNaHANGUL CHOSEONG KIYEOKqSSANGKIYEOKqNIEUNqTIKEUTqSSANGTIKEUTqRIEULqMIEUMqPIEUPqS",
     "SANGPIEUPrIOSrSANGSIOSqIEUNGqCIEUCqSSANGCIEUCqCHIEUCHqKHIEUKHqTHIEUTHqPHIEUPHqHIEUHqNIEUN-KI",
     "YEOKqSSANGNIEUNqNIEUN-TIKEUTwPIEUPqTIKEUT-KIYEOKqRIEUL-NIEUNqSSANGRIEULqRIEUL-HIEUHqKAPYEOUN",
     "RIEULqMIEUM-PIEUPqKAPYEOUNMIEUMqPIEUP-KIYEOKwNIEUNwTIKEUTwSIOSzb-KIYEOKzcTIKEUTzcPIEUPxSANGS",
     "IOSxIOS-CIEUCwCIEUCxHIEUCHwTHIEUTHwPHIEUPHqKAPYEOUNPIEUPySSANGPIEUPqSIOS-KIYEOKvNIEUNvTIKEUT",
     "vRIEULvMIEUMvPIEUPzb-KIYEOKvSSANGSIOSvIEUNGvCIEUCwHIEUCHvKHIEUKHvTHIEUTHvPHIEUPHvHIEUHqCHITU",
     "EUMSIOSzaSANGSIOSrEONGCHIEUMSIOSzdSANGSIOSqPANSIOSqIEUNG-KIYEOKwTIKEUTwMIEUMwPIEUPwSIOSwPANS",
     "IOSqSSANGIEUNGqIEUNG-CIEUCxHIEUCHwTHIEUTHwPHIEUPHqYESIEUNGqCIEUC-IEUNGrHITUEUMCIEUCySSANGCIE",
     "UCrEONGCHIEUMCIEUCzcSSANGCIEUCrHIEUCH-KHIEUKHyHIEUHtTUEUMCHIEUCHrEONGCHIEUMCHIEUCHqPHIEUPH-P",
     "IEUPqKAPYEOUNPHIEUPHqSSANGHIEUHqYEORINHIEUHqKIYEOK-TIKEUTqNIEUN-SIOSwCIEUCwHIEUHqTIKEUT-RIEU",
     "LqFILLERhJUNGSEONG FILLERrAsErYAtErEOsrYEOtrOrWAtErOErYOrUrWEOtsIrYUrEUrYIrIrA-OtUrYA-OuYOrE",
     "O-OuUuEUrYEO-OvUrO-EOutYEtOtUrYO-YAwEvEOuOuIrU-AuEtEO-EUtYEtUrYU-AuEOvuYEOwuUuIrEU-UuEUrYI-U",
     "rI-AtYAtOtUtEUtARAEArARAEAw-EOxUxIrSSANGARAEArA-EUrYA-UsEO-YArO-YAvEiONGSEONG KIYEOKrSSANGKI",
     "YEOKrKIYEOK-SIOSrNIEUNw-CIEUCxHIEUHrTIKEUTrRIEULw-KIYEOKxMIEUMxPIEUPxSIOSxTHIEUTHxPHIEUPHxHI",
     "EUHrMIEUMrPIEUPw-SIOSrSIOSsSANGSIOSrIEUNGrCIEUCsHIEUCHrKHIEUKHrTHIEUTHrPHIEUPHrHIEUHrKIYEOK-",
     "RIEULySIOS-KIYEOKrNIEUN-KIYEOKxTIKEUTxSIOSxPANSIOSxTHIEUTHrTIKEUT-KIYEOKyRIEULrRIEUL-KIYEOK-",
     "SIOSxNIEUNxTIKEUTze-HIEUHrSSANGRIEULrRIEUL-MIEUM-KIYEOKzeSIOSxPIEUP-SIOSzeHIEUHxKAPYEOUNPIEU",
     "PxSSANGSIOSxPANSIOSxKHIEUKHxYEORINHIEUHrMIEUM-KIYEOKxRIEULxPIEUPxSIOSySANGSIOSxPANSIOSxCHIEU",
     "CHxHIEUHrKAPYEOUNMIEUMrPIEUP-RIEULxPHIEUPHxHIEUHrKAPYEOUNPIEUPrSIOS-KIYEOKwTIKEUTwRIEULwPIEU",
     "PrPANSIOSrIEUNG-KIYEOKxSSANGKIYEOKrSSANGIEUNGrIEUNG-KHIEUKHrYESIEUNGza-SIOSzbPANSIOSrPHIEUPH",
     "-PIEUPrKAPYEOUNPHIEUPHrHIEUH-NIEUNxRIEULxMIEUMxPIEUPrYEORINHIEUHrKIYEOK-NIEUNyPIEUPyCHIEUCHy",
     "KHIEUKHyHIEUHrSSANGNIEUNaETHIOPIC SYLLABLE HAtUtItAAtEEutOuAsLAtUtItAAtEEutOtWAsHHAuUuIuAAuE",
     "EvuOuWAsMAtUtItAAtEEutOtWAsSZAuUuIuAAuEEvuOuWAsRAtUtItAAtEEutOtWAsSAtUtItAAtEEutOtWAtHAuUuIu",
     "AAuEEvuOuWAsQAtUtItAAtEEutOuAtWA"]⟩,
   ⟨4682, ["aETHIOPIC SYLLABLE QWIuAAuEEv"]⟩,
   ⟨4688, ["aETHIOPIC SYLLABLE QHAuUuIuAAuEEvuO"]⟩,
   ⟨4696, ["aETHIOPIC SYLLABLE QHWA"]⟩,
   ⟨4698, ["aETHIOPIC SYLLABLE QHWIvAAvEEw"]⟩,
   ⟨4704, ["aETHIOPIC SYLLABLE BAtUtItAAtEEutOtWAsVAtUtItAAtEEutOtWAsTAtUtItAAtEEutOtWAsCAtUtItAAt",
     "EEutOtWAsXAtUtItAAtEEutOuAtWA"]⟩,
   ⟨4746, ["aETHIOPIC SYLLABLE XWIuAAuEEv"]⟩,
   ⟨4752, ["aETHIOPIC SYLLABLE NAtUtItAAtEEutOtWAtYAuUuIuAAuEEvuOuWAsGLOTTAL AzbUzbIzbAAzbEEzczbOz",
     "bWAsKAtUtItAAtEEutOuAtWA"]⟩,
   ⟨4786, ["aETHIOPIC SYLLABLE KWIuAAuEEv"]⟩,
   ⟨4792, ["aETHIOPIC SYLLABLE KXAuUuIuAAuEEvuO"]⟩,
   ⟨4800, ["aETHIOPIC SYLLABLE KXWA"]⟩,
   ⟨4802, ["aETHIOPIC SYLLABLE KXWIvAAvEEw"]⟩,
   ⟨4808, ["aETHIOPIC SYLLABLE WAtUtItAAtEEutOuAsPHARYNGEAL AzeUzeIzeAAzeEEzfzeO"]⟩,
   ⟨4824, ["aETHIOPIC SYLLABLE ZAtUtItAAtEEutOtWAtHAuUuIuAAuEEvuOuWAsYAtUtItAAtEEutOuAsDAtUtItAAtE",
     "EutOtWAtDAuUuIuAAuEEvuOuWAsJAtUtItAAtEEutOtWAsGAtUtItAAtEEutOuAtWA"]⟩,
   ⟨4882, ["aETHIOPIC SYLLABLE GWIuAAuEEv"]⟩,
   ⟨4888, ["aETHIOPIC SYLLABLE GGAuUuIuAAuEEvuOuWAAsTHAuUuIuAAuEEvuOuWAsCHAuUuIuAAuEEvuOuWAsPHAuUu",
     "IuAAuEEvuOuWAsTSAuUuIuAAuEEvuOuWAtZAuUuIuAAuEEvuOvAsFAtUtItAAtEEutOtWAsPAtUtItAAtEEutOtWAsRY",
     "AsMYAsFYA"]⟩,
   ⟨4957, ["aETHIOPIC COMBINING GEMINATION AND VOWEL LENGTH MARKtVOWEL LENGTH MARKtGEMINATION MARK",
     "jSECTION MARKjWORDSPACEjFULL STOPjCOMMAjSEMICOLONjCOLONjPREFACE COLONjQUESTION MARKjPARAGRAP",
     "H SEPARATORjDIGIT ONEpTWOqHREEpFOURqIVEpSIXqEVENpEIGHTpNINEjNUMBER TENrWENTYrHIRTYqFORTYrIFT",
     "YqSIXTYrEVENTYqEIGHTYqNINETYqHUNDREDqTEN THOUSAND"]⟩,
   ⟨4992, ["aETHIOPIC SYLLABLE SEBATBEIT MWAsMWIuEEvsSEBATBEIT BWAsBWIuEEvsSEBATBEIT FWAsFWIuEEvsS",
     "EBATBEIT PWAsPWIuEEvjTONAL MARK YIZETuDERETuRIKRIKuSHORT RIKRIKuDIFATuKENATuCHIRETuHIDETuDER",
     "ET-HIDETuKURT"]⟩,
   ⟨5024, ["aCHEROKEE LETTER AqEqIqOqUqVqGAqKAqGErIrOrUrVqHArErIrOrUrVqLArErIrOrUrVqMArErIrOrUqNAq",
     "HNAqNAHrErIrOrUrVqQUAsEsIsOsUsVqSArrErIrOrUrVqDAqTAqDEqTEqDIqTIqDOrUrVrLAqTLAsEsIsOsUsVrSAsE",
     "sIsOsUsVqWArErIrOrUrVqYArErIrOrUrVqMV"]⟩,
   ⟨5112, ["aCHEROKEE SMALL LETTER YExIxOxUxVwMV"]⟩,
   ⟨5120, ["aCANADIAN SYLLABICS HYPHENtEtAAItIuItOuOtY-CREE OOtCARRIER EEzcItAuAtWEvST-CREE WEuIuE",
     "ST-CREE WIuIIuEST-CREE WIIuOuEST-CREE WOuOOuEST-CREE WOOtNASKAPI WOOtWAuEST-CREE WAuAAuEST-C",
     "REE WAAtNASKAPI WAAtAItY-CREE WtGLOTTAL STOPtFINAL ACUTEzaGRAVEzaBOTTOM HALF RINGzaTOP HALF ",
     "RINGzaRIGHT HALF RINGzcNGzaDOUBLE ACUTEzhSHORT VERTICAL STROKESzaMIDDLE DOTzaSHORT HORIZONTA",
     "L STROKEzaPLUSzaDOWN TACKtENtINtONtANtPEuAAIuIvIuOvOtY-CREE POOtCARRIER HEEzdItPAvAuWEtWEST-",
     "CREE PWEtPWItWEST-CREE PWItPWIItWEST-CREE PWIItPWOtWEST-CREE PWOtPWOOtWEST-CREE PWOOtPWAtWES",
     "T-CREE PWAtPWAAtWEST-CREE PWAAtY-CREE PWAAtPtWEST-CREE PtCARRIER HtTEuAAIuIvIuOvOtY-CREE TOO",
     "tCARRIER DEEzdItTAvAuWEtWEST-CREE TWEtTWItWEST-CREE TWItTWIItWEST-CREE TWIItTWOtWEST-CREE TW",
     "OtTWOOtWEST-CREE TWOOtTWAtWEST-CREE TWAtTWAAtWEST-CREE TWAAtNASKAPI TWAAtTuTEvIvOvAtKEuAAIuI",
     "vIuOvOtY-CREE KOOtKAvAuWEtWEST-CREE KWEtKWItWEST-CREE KWItKWIItWEST-CREE KWIItKWOtWEST-CREE ",
     "KWOtKWOOtWEST-CREE KWOOtKWAtWEST-CREE KWAtKWAAtWEST-CREE KWAAtNASKAPI KWAAtKuWtSOUTH-SLAVEY ",
     "KEHziIHziOHziAHtCEuAAIuIvIuOvOtY-CREE COOtCAvAuWEtWEST-CREE CWEtCWItWEST-CREE CWItCWIItWEST-",
     "CREE CWIItCWOtWEST-CREE CWOtCWOOtWEST-CREE CWOOtCWAtWEST-CREE CWAtCWAAtWEST-CREE CWAAtNASKAP",
     "I CWAAtCtSAYISI THtMEuAAIuIvIuOvOtY-CREE MOOtMAvAuWEtWEST-CREE MWEtMWItWEST-CREE MWItMWIItWE",
     "ST-CREE MWIItMWOtWEST-CREE MWOtMWOOtWEST-CREE MWOOtMWAtWEST-CREE MWAtMWAAtWEST-CREE MWAAtNAS",
     "KAPI MWAAtMtWEST-CREE MtMHtATHAPASCAN MtSAYISI MtNEuAAIuIvIuOvOtY-CREE NOOtNAvAuWEtWEST-CREE",
     " NWEtNWAtWEST-CREE NWAtNWAAtWEST-CREE NWAAtNASKAPI NWAAutCARRIER NGtNHtLEuAAIuIvIuOvOtY-CREE",
     " LOOtLAvAuWEtWEST-CREE LWEtLWItWEST-CREE LWItLWIItWEST-CREE LWIItLWOtWEST-CREE LWOtLWOOtWEST",
     "-CREE LWOOtLWAtWEST-CREE LWAtLWAAtWEST-CREE LWAAtLtWEST-CREE LtMEDIAL LtSEuAAIuIvIuOvOtY-CRE",
     "E SOOtSAvAuWEtWEST-CREE SWEtSWItWEST-CREE SWItSWIItWEST-CREE SWIItSWOtWEST-CREE SWOtSWOOtWES",
     "T-CREE SWOOtSWAtWEST-CREE SWAtSWAAtWEST-CREE SWAAtNASKAPI SWAAtStATHAPASCAN StSWtBLACKFOOT S",
     "tMOOSE-CREE SKtNASKAPI SKWzd-WzdPWAzdTWAzdKWAzdCWAtSHEvIwIvOwOvAwAvWEtWEST-CREE SHWEtSHWItWE",
     "ST-CREE SHWItSHWIItWEST-CREE SHWIItSHWOtWEST-CREE SHWOtSHWOOtWEST-CREE SHWOOtSHWAtWEST-CREE ",
     "SHWAtSHWAAtWEST-CREE SHWAAtSHtYEuAAIuIvIuOvOu-CREE YOOuAvAuWEtWEST-CREE YWEtYWItWEST-CREE YW",
     "ItYWIItWEST-CREE YWIItYWOtWEST-CREE YWOtYWOOtWEST-CREE YWOOtYWAtWEST-CREE YWAtYWAAtWEST-CREE",
     " YWAAtNASKAPI YWAAtYtBIBLE-CREE YtWEST-CREE YtSAYISI YItREu-CREE REtWEST-CREE LEtRAAIuIvIuOv",
     "OtWEST-CREE LOtRAvAtWEST-CREE LAtRWAAtWEST-CREE RWAAtRtWEST-CREE RtMEDIAL RtFEuAAIuIvIuOvOuA",
     "vAuWAAtWEST-CREE FWAAtFtTHEtN-CREE THEtTHItN-CREE THItTHIItN-CREE THIItTHOwOvAwAvWAAtWEST-CR",
     "EE THWAAtTHuTHEwIwOwAwuYEvIvOvAtNUNAVIK HEzdIzeIzdOzeOzdAzeAzdyUT HtHKtQAAIuIvIuOvOuAvAutTLH",
     "EwIwOwAtWEST-CREE REzfIzfOzfAtNGAAIvIwIvOwOvAwAvuNGtSAYISI SHEzdIzdOzdAtWOODS-CREE THEzhIzhO",
     "zhAzhtLHIwIvOwOvAwAvtTH-CREE THEzeIzfIzeOzfOzeAzfAzetAIVILIK BtBLACKFOOT EzeIzeOzeAzeWEzfIzf",
     "OzfAzeNEzfIzfOzfAzeKEzfIzfOzfAtSAYISI HEzcIzcOzcAtCARRIER GHUzeOzeEzfEzeIzeAzcRUzdOzdEzeEzdI",
     "zdAzcWUzdOzdEzeEzdIzdAzcHWUzeOzeEzfEzeIzeAzcTHUzeOzeEzfEzeIzeAzdTUzeOzeEzfEzeIzeAzcPUzdOzdEz",
     "eEzdIzdAzdzcGUzdOzdEzeEzdIzdAzcKHUzeOzeEzfEzeIzeAzdKUzeOzeEzfEzeIzeAzezcNUzdOzdEzeEzdIzdAzcM",
     "UzdOzdEzeEzdIzdAzcYUzdOzdEzeEzdIzdAzcJUtSAYISI JUtCARRIER JOzdEzeEzdItSAYISI JItCARRIER JAzd",
     "JUzeOzeEzfEzeIzeAzcLUzdOzdEzeEzdIzdAzcDLUzeOzeEzfEzeIzeAzcLHUzeOzeEzfEzeIzeAzcTLHUzfOzfEzgEz",
     "fIzfAzeUzeOzeEzfEzeIzeAzcZUzdOzdEzeEzdIzdAzdzcINITIAL ZzcDZUzeOzeEzfEzeIzeAzcSUzdOzdEzeEzdIz",
     "dAzdHUzeOzeEzfEzeIzeAzezcTSUzeOzeEzfEzeIzeAzcCHUzeOzeEzfEzeIzeAzcTTSUzfOzfEzgEzfIzfAuHI SIGN",
     "tFULL STOPtQAItNGAIuNGIxIwOxOwAxAtWOODS-CREE THWEEziIzjIziOzjOziAzjAzfFINAL THtBLACKFOOT WaO",
     "GHAM SPACE MARKgLETTER BEITHnLUISnFEARNnSAILnNIONnUATHnDAIRnTINNEnCOLLoEIRTnMUINnGORTnNGEADA",
     "LnSTRAIFnRUISnAILMnONNnURnEADHADHnIODHADHnEABHADHnORnUILLEANNnIFINnEAMHANCHOLLnPEITHgFEATHER",
     " MARKgREVERSED FEATHER MARK"]⟩,
   ⟨5792, ["aRUNIC LETTER FEHU FEOH FE FnVnURUZ UR UnYRonWnTHURISAZ THURS THORNnETHnANSUZ AnOS OnA",
     "C AoESCnLONG-BRANCH-OSS OnSHORT-TWIG-OSS OnOoEoNnRAIDO RAD REID RnKAUNAnCENnKAUN KnGnENGnGEB",
     "O GYFU GoARnWUNJO WYNN WnHAGLAZ HpEGL HnLONG-BRANCH-HAGALL HnSHORT-TWIG-HAGALL HnNAUDIZ NYD ",
     "NAUD NnSHORT-TWIG-NAUD NnDOTTED-NnISAZ IS ISS InEnJERAN JnGERnLONG-BRANCH-AR AEnSHORT-TWIG-A",
     "R AnIWAZ EOHnPERTHO PEORTH PnALGIZ EOLHXnSOWILO SoIGEL LONG-BRANCH-SOL SoHORT-TWIG-SOL SnCnZ",
     "nTIWAZ TIR TYR TnSHORT-TWIG-TYR TnDnBERKANAN BEORC BJARKAN BnSHORT-TWIG-BJARKAN BnDOTTED-PnO",
     "PEN-PnEHWAZ EH EnMANNAZ MAN MnLONG-BRANCH-MADR MnSHORT-TWIG-MADR MnLAUKAZ LAGU LOGR LnDOTTED",
     "-LnINGWAZqnDAGAZ DAEG DnOTHALAN ETHEL OnEARnIORnCWEORTHoALCoEALCnSTANnLONG-BRANCH-YRnSHORT-T",
     "WIG-YRnICELANDIC-YRnQnXgSINGLE PUNCTUATIONgMULTIPLE PUNCTUATIONgCROSS PUNCTUATIONgARLAUG SYM",
     "BOLgTVIMADUR SYMBOLgBELGTHOR SYMBOLgLETTER KnSHnOOnFRANKS CASKET OSzcISzcEHzcACzdESC"]⟩,
   ⟨5888, ["aTAGALOG LETTER ApIpUpKApGApNGApTApDApNApPApBApMApYApRApLApWApSApHAiVOWEL SIGN ItUiSIG",
     "N VIRAMAnPAMUDPOD"]⟩,
   ⟨5919, ["aTAGALOG LETTER ARCHAIC RAaHANUNOO LETTER ApIpUpKApGApNGApTApDApNApPApBApMApYApRApLApW",
     "ApSApHAiVOWEL SIGN ItUiSIGN PAMUDPODaPHILIPPINE SINGLE PUNCTUATIONlDOUBLE PUNCTUATION"]⟩,
   ⟨5952, ["aBUHID LETTER AnInUnKAnGAnNGAnTAnDAnNAnPAnBAnMAnYAnRAnLAnWAnSAnHAgVOWEL SIGN IrU"]⟩,
   ⟨5984, ["aTAGBANWA LETTER AqIqUqKAqGAqNGAqTAqDAqNAqPAqBAqMAqYA"]⟩,
   ⟨5998, ["aTAGBANWA LETTER LAqWAqSA"]⟩,
   ⟨6002, ["aTAGBANWA VOWEL SIGN IuU"]⟩,
   ⟨6016, ["aKHMER LETTER KAoHAoOoHOnNGOnCAoHAoOoHOnNYOnDAnTTHAnDOnTTHOnNNOnTAoHAoOoHOnNOnBAnPHAoO",
     "oHOnMOnYOnROnLOnVOnSHAoSOoAnHAnLAnQAgINDEPENDENT VOWEL QAQzbAzaIzbIzaUzbKzbUzcVyRYzbYyLYzbYy",
     "QEzaAIzaOO TYPE ONEziTWOzaAUgVOWEL INHERENT AQwAmSIGN AArIsIrYsYrUsUsArOErYArIErErAEsIrOOrAU",
     "gSIGN NIKAHITlREAHMUKlYUUKALEAPINTUlMUUSIKATOANlTRIISAPlBANTOClROBATlTOANDAKHIATlKAKABATlAHS",
     "DAlSAMYOK SANNYAlVIRIAMlCOENGlBATHAMASATlKHANlBARIYOOSANlCAMNUC PII KUUHlLEK TOOlBEYYALlPHNA",
     "EK MUANlKOOMUUTgCURRENCY SYMBOL RIELgSIGN AVAKRAHASANYAmTTHACAN"]⟩,
   ⟨6112, ["aKHMER DIGIT ZEROmONEmTWOnHREEmFOURnIVEmSIXnEVENmEIGHTmNINE"]⟩,
   ⟨6128, ["aKHMER SYMBOL LEK ATTAK SONxMUOYxPIIxBEIyUONxPRAMzc-MUOYzdPIIzdBEIzeUON"]⟩,
   ⟨6144, ["aMONGOLIAN BIRGAkELLIPSISkCOMMAkFULL STOPkCOLONkFOUR DOTSkTODO SOFT HYPHENkSIBE SYLLAB",
     "LE BOUNDARY MARKERkMANCHU COMMArFULL STOPkNIRUGUkFREE VARIATION SELECTOR ONEzjTWOzkHREEkVOWE",
     "L SEPARATORkFREE VARIATION SELECTOR FOURkDIGIT ZEROqONEqTWOrHREEqFOURrIVEqSIXrEVENqEIGHTqNIN",
     "E"]⟩,
   ⟨6176, ["aMONGOLIAN LETTER ArErIrOrUrOErUErEErNArANGrBArPArQArGArMArLArSAsHArTArDArCHArJArYArRA",
     "rWArFArKAsHArTSArZArHAArZRArLHArZHIrCHIrTODO LONG VOWEL SIGNwEwIwOwUwOEwUEwANGwBAwPAwQAwGAwM",
     "AwTAwDAwCHAwJAwTSAwYAwWAwKAwGAAwHAAwJIAwNIAwDZArSIBE EwIxYwUExwANGwKAwGAwHAwPAwSHAwTAwDAwJAw",
     "FAwGAAwHAAwTSAwZAwRAAwCHAwZHArMANCHU IyKAyRAyFAyZHArCHA WITH TWO DOTS"]⟩,
   ⟨6272, ["aMONGOLIAN LETTER ALI GALI ANUSVARA ONEzbVISARGA ONEzbDAMARUzbUBADAMAzbINVERTED UBADAM",
     "AzbBALUDAzbTHREE BALUDAzbAzbIzbKAzbNGAzbCAzbTTAzdHAzbDDAzbNNAzbTAzbDAzbPAzcHAzbSSAzbZHAzcAzb",
     "AHrTODO ALI GALI TAzgZHArMANCHU ALI GALI GHAziNGAziCAziJHAziTTAziDDHAziTAziDHAziSSAziCYAziZH",
     "AzjArALI GALI HALF UzgYArMANCHU ALI GALI BHArALI GALI DAGALGArMANCHU ALI GALI LHA"]⟩,
   ⟨6320, ["aCANADIAN SYLLABICS OYtAYuAYtWAYtPOYuAYuWOYtTAYtKAYuWAYtMAYtNOYuAYtLAYtSOYuAYuHOYvAYvW",
     "OYtYOYuAYtRAYtNWItOJIBWAY NWItNWIItOJIBWAY NWIItNWOtOJIBWAY NWOtNWOOtOJIBWAY NWOOtRWEEvIwIvO",
     "wOvAtOJIBWAY PzcTzcKzcCzcMzcNzcSzdHtEASTERN WtWESTERN WtFINAL SMALL RINGzaRAISED DOTtR-CREE ",
     "RWEtWEST-CREE LOOzfAAtTHWEwAuTHWEwOOwAAuLHWEwOOtSAYISI SHWEzdOOzbHOOtCARRIER GWUzcDENE GEEzc",
     "GAAzdWAtSAYISI JUUtCARRIER JWAtBEAVER DENE LzgRtCARRIER DENTAL S"]⟩,
   ⟨6400, ["aLIMBU VOWEL-CARRIER LETTERgLETTER KAoHAnGAoHAnNGAnCAoHAnJAoHAnYANnTAoHAnDAoHAnNAnPAoH",
     "AnBAoHAnMAnYAnRAnLAnWAnSHAoSAoAnHAnGYANnTRA"]⟩,
   ⟨6432, ["aLIMBU VOWEL SIGN ArIrUrEErAIrOOrAUrErOgSUBJOINED LETTER YAxRAxWA"]⟩,
   ⟨6448, ["aLIMBU SMALL LETTER KAtNGAtANUSVARAtTAtNAtPAtMAtRAtLAhIGN MUKPHRENGlKEMPHRENGlSA-I"]⟩,
   ⟨6464, ["aLIMBU SIGN LOO"]⟩,
   ⟨6468, ["aLIMBU EXCLAMATION MARKgQUESTION MARKgDIGIT ZEROmONEmTWOnHREEmFOURnIVEmSIXnEVENmEIGHTm",
     "NINEaTAI LE LETTER KAoXAoNGAoTSAoSAoYAoTApHAoLAoPApHAoMAoFAoVAoHAoQAoKHAoTSHAoNAoAoIoEEpHoUo",
     "OOpoUEoEoAUEpI"]⟩,
   ⟨6512, ["aTAI LE LETTER TONE-2t3t4t5t6"]⟩,
   ⟨6528, ["aNEW TAI LUE LETTER HIGH QAtLOW QAtHIGH KAyXAyNGAtLOW KAxXAxNGAtHIGH TSAySAyYAtLOW TSA",
     "xSAxYAtHIGH TAzaHAyNAtLOW TAyHAxNAtHIGH PAzaHAyMAtLOW PAyHAxMAtHIGH FAyVAyLAtLOW FAxVAxLAtHI",
     "GH HAyDAyBAtLOW HAxDAxBAtHIGH KVAyXVAtLOW KVAxXVAtHIGH SUAtLOW SUA"]⟩,
   ⟨6576, ["aNEW TAI LUE VOWEL SIGN VOWEL SHORTENERxAAxIIxUyUxExAExOyAxUExAYyAYxUYxOYyAYxUEYxIYmLE",
     "TTER FINAL VzaNGzbzaMzaKzaDzaBmTONE MARK-1w2"]⟩,
   ⟨6608, ["aNEW TAI LUE DIGIT ZEROsONEsTWOtHREEsFOURtIVEsSIXtEVENsEIGHTsNINEmTHAM DIGIT ONE"]⟩,
   ⟨6622, ["aNEW TAI LUE SIGN LAEuVaKHMER SYMBOL PATHAMASATnMUOY KOETnPII KOETnBEI KOEToUON KOETnP",
     "RAM KOETr-MUOY KOETsPII KOETsBEI KOETtUON KOETnDAP KOETq-MUOY KOETrPII KOETrBEI KOETsUON KOE",
     "TrPRAM KOETnTUTEYASATnMUOY ROCnPII ROCnBEI ROCoUON ROCnPRAM ROCr-MUOY ROCsPII ROCsBEI ROCtUO",
     "N ROCnDAP ROCq-MUOY ROCrPII ROCrBEI ROCsUON ROCrPRAM ROCaBUGINESE LETTER KAqGAqNGAsKAqPAqBAq",
     "MArPAqTAqDAqNArRAqCAqJAqNYAsCAqYAqRAqLAqVAqSAqAqHAjVOWEL SIGN IuUuEuOuAE"]⟩,
   ⟨6686, ["aBUGINESE PALLAWAjEND OF SECTIONaTAI THAM LETTER HIGH KAwHAwXAqLOW KAvXAvHAqNGAqHIGH C",
     "AwHAqLOW CAuSAuCHAqNYAqRATAqHIGH RATHAqDAqLOW RATHAqRANAqHIGH TAwHAqLOW TAvHAqNAqBAqHIGH PAw",
     "HAvFAqLOW PAuFAuPHAqMAqLOW YAqHIGH YAqRArUEqLArUEqWAqHIGH SHAwSAwAvHAqLLAqAqLOW HAqIrIqUrUqE",
     "EqOOqLAEqGREAT SAjCONSONANT SIGN MEDIAL RAzgLAyLA TANG LAIjSIGN MAI KANG LAIjCONSONANT SIGN ",
     "FINAL NGAyLOW PAyHIGH RATHA OR LOW PAyMAyBAySA"]⟩,
   ⟨6752, ["aTAI THAM SIGN SAKOTjVOWEL SIGN AuMAI SATuAAuTALL AAuIvIuUEvUEvvUuOvA BELOWvYuEuAEuOOu",
     "AIuTHAM AIuOA ABOVEjSIGN MAI KANGoTONE-1t2oKHUEN TONE-3za4za5oRA HAAMoMAI SAMoKHUEN-LUE KARA",
     "N"]⟩,
   ⟨6783, ["aTAI THAM COMBINING CRYPTOGRAMMIC DOTjHORA DIGIT ZEROuONEuTWOvHREEuFOURvIVEuSIXvEVENuE",
     "IGHTuNINE"]⟩,
   ⟨6800, ["aTAI THAM THAM DIGIT ZEROuONEuTWOvHREEuFOURvIVEuSIXvEVENuEIGHTuNINE"]⟩,
   ⟨6816, ["aTAI THAM SIGN WIANGtWAAKoSAWANoKEOWoHOYoDOKMAIoREVERSED ROTATED RANAoMAI YAMOKoKAANsK",
     "UUoSATKAANvKUUoHANGoCAANG"]⟩,
   ⟨6832, ["aCOMBINING DOUBLED CIRCUMFLEX ACCENTlIAERESIS-RINGkINFINITYkDOWNWARDS ARROWkTRIPLE DOT",
     "kX-X BELOWkWIGGLY LINE BELOWkOPEN MARK BELOWkDOUBLE OPEN MARK BELOWkLIGHT CENTRALIZATION STR",
     "OKE BELOWkSTRONG CENTRALIZATION STROKE BELOWkPARENTHESES ABOVEkDOUBLE PARENTHESES ABOVEkPARE",
     "NTHESES BELOWwOVERLAYkLATIN SMALL LETTER W BELOWzeTURNED W BELOWlEFT PARENTHESIS ABOVE LEFTk",
     "RIGHT PARENTHESIS ABOVE RIGHTkLEFT PARENTHESIS BELOW LEFTkRIGHT PARENTHESIS BELOW RIGHTkSQUA",
     "RE BRACKETS ABOVEkNUMBER SIGN ABOVEkINVERTED DOUBLE ARCH ABOVEkPLUS SIGN ABOVEkDOUBLE PLUS S",
     "IGN ABOVEzcBELOWkTRIPLE ACUTE ACCENTkLATIN SMALL LETTER INSULAR GzmRzmT"]⟩,
   ⟨6912, ["aBALINESE SIGN ULU RICEMsCANDRAoCECEKoSURANGoBISAHjLETTER AKARAv TEDUNGqIKARAv TEDUNGq",
     "UKARAv TEDUNGqRA REPAx TEDUNGqLA LENGAy TEDUNGqEKARAqAIKARAqOKARAv TEDUNGqKAs MAHAPRANAqGAs ",
     "GORAqNGAqCAs LACAqJAs JERAqNYAqTA LATIKtMURDA MAHAPRANAqDA MURDA ALPAPRANAzaMAHAPRANAqNA RAM",
     "BATqTAs TAWAqDAs MADUqNAqPAs KAPALqBAs KEMBANGqMAqYAqRAqLAqWAqSA SAGAvPAsqHAjSIGN REREKANjVO",
     "WEL SIGN TEDUNGuULUx SARIuSUKUy ILUTuRA REPAzc TEDUNGuLA LENGAzd TEDUNGuTALINGzb REPAzcTEDUN",
     "GzcREPA TEDUNGuPEPETza TEDUNGjADEG ADEGjLETTER KAF SASAKrHOT SASAKqTZIR SASAKqEF SASAKqVE SA",
     "SAKqZAL SASAKqASYURA SASAKrRCHAIC JNYA"]⟩,
   ⟨6992, ["aBALINESE DIGIT ZEROpONEpTWOqHREEpFOURqIVEpSIXqEVENpEIGHTpNINEjPANTIlMADAjWINDUjCARIK ",
     "PAMUNGKAHpSIKIpPARERENjPAMENENGjMUSICAL SYMBOL DONGzaENGzaUNGzaANGzd SURANGzaINGzaAENGzaEUNG",
     "zaAINGzbNG GEDEyCOMBINING TEGEHzjENDEPzjKEMPULznLIzjJEGOGANzjKEMPUL WITH JEGOGANznLI WITH JE",
     "GOGANzjBENDEzjGONGyRIGHT-HAND OPEN DUGzqAGzkCLOSED TUKzsAKyLEFT-HAND OPEN PANGzpUNGzjCLOSED ",
     "PLAKzsUKzjOPEN PINGjPANTI LANTANGlMADA LANTANG"]⟩,
   ⟨7040, ["aSUNDANESE SIGN PANYECEKsGLAYARtWISADkLETTER ArIrUrAErOrEsUrKArQArGArNGArCArJArZArNYAr",
     "TArDArNArPArFArVArBArMArYArRArLArWArSArXArHAkCONSONANT SIGN PAMINGKALzcNYAKRAzeIKUkVOWEL SIG",
     "N PANGHULUyYUKUyAELAENGyOLONGxMEPETxNEULEUNGkSIGN PAMAAEHpVIRAMAkCONSONANT SIGN PASANGAN MAz",
     "jWAkLETTER KHArSYAkDIGIT ZEROqONEqTWOrHREEqFOURrIVEqSIXrEVENqEIGHTqNINEkAVAGRAHAkLETTER REUr",
     "LEUrBHArFINAL KxMaBATAK LETTER AnSIMALUNGUN AnHAnSIMALUNGUN HAnMANDAILING HAnBAnKARO BAnPAnS",
     "IMALUNGUN PAnNAnMANDAILING NAnWAnSIMALUNGUN WAnPAKPAK WAnGAnSIMALUNGUN GAnJAnDAnRAnSIMALUNGU",
     "N RAnMAnSIMALUNGUN MAoOUTHERN TAnNORTHERN TAnSAoIMALUNGUN SAnMANDAILING SAnYAnSIMALUNGUN YAn",
     "NGAnLAnSIMALUNGUN LAnNYAnCAnNDAnMBAnInUgSIGN TOMPIgVOWEL SIGN ErPAKPAK ErEErIrKARO IrOrKARO ",
     "OrUs FOR SIMALUNGUN SAgCONSONANT SIGN NGvHgPANGOLATjONGONAN"]⟩,
   ⟨7164, ["aBATAK SYMBOL BINDU NA METEKtPINARBORAStJUDULtPANGOLATaLEPCHA LETTER KApLApHAoGApLAoNG",
     "AoCApHAoJAoNYAoTApHAoDAoNAoPApLApHAoFApLAoBApLAoMApLAoTSAqHAoDZAoYAoRAoLAoHApLAoVAoSApHAoWAo",
     "AhSUBJOINED LETTER YAyRAhVOWEL SIGN AAsIsOtOsUtUsEhCONSONANT SIGN KwMwLwNwPwRwTwNYIN-DOwKANG",
     "hSIGN RANmNUKTA"]⟩,
   ⟨7227, ["aLEPCHA PUNCTUATION TA-ROLtNYET THYOOM TA-ROLtCER-WAtTSHOOK CER-WAzahDIGIT ZEROnONEnTW",
     "OoHREEnFOURoIVEnSIXoEVENnEIGHTnNINE"]⟩,
   ⟨7245, ["aLEPCHA LETTER TTAqHAoDDAaOL CHIKI DIGIT ZEROpONEpTWOqHREEpFOURqIVEpSIXqEVENpEIGHTpNIN",
     "EjLETTER LAqATrGrNGrLqLAAqAAKsJsMsWqLIqISrHrNYrRqLUqUCrDrNNrYqLEqEPrDDrNrRRqLOqOTTrBrVrHjMU ",
     "TTUDDAGjGAAHLAA TTUDDAAGjMU-GAAHLAA TTUDDAAGjRELAAjPHAARKAAjAHADjPUNCTUATION MUCAADvDOUBLE M",
     "UCAADaCYRILLIC SMALL LETTER ROUNDED VEwLONG-LEGGED DEwNARROW OwWIDE ESwTALL TExHREE-LEGGED T",
     "ExALL HARD SIGNzcYATwUNBLENDED UK"]⟩,
   ⟨7312, ["aGEORGIAN MTAVRULI CAPITAL LETTER ANziBANziGANziDONziENziVINziZENziTANziINziKANziLASzi",
     "MANziNARziONziPARziZHARziRAEziSANziTARziUNziPHARziKHARziGHANziQARziSHINziCHINzjANziJILziCILz",
     "jHARziXANziJHANziHAEzjEzjIEziWEziHARzjOEziFIziYNziELIFIziTURNED GANziAIN"]⟩,
   ⟨7357, ["aGEORGIAN MTAVRULI CAPITAL LETTER AENziHARD SIGNziLABIAL SIGNaSUNDANESE PUNCTUATION BI",
     "NDU SURYAzdPANGLONGzeURNAMAzdCAKRAzdLEU SATANGAzdKA SATANGAzdDA SATANGAzdBA SATANGA"]⟩,
   ⟨7376, ["aVEDIC TONE KARSHANAlSHARAlPRENKHAgSIGN NIHSHVASAlYAJURVEDIC MIDLINE SVARITAgTONE YAJU",
     "RVEDIC AGGRAVATED INDEPENDENT SVARITAwINDEPENDENT SVARITAwKATHAKA INDEPENDENT SVARITAlCANDRA",
     " BELOWlYAJURVEDIC KATHAKA INDEPENDENT SVARITA SCHROEDERlDOUBLE SVARITAlTRIPLE SVARITAlKATHAK",
     "A ANUDATTAlDOT BELOWlTWO DOTS BELOWmHREE DOTS BELOWlRIGVEDIC KASHMIRI INDEPENDENT SVARITAlAT",
     "HARVAVEDIC INDEPENDENT SVARITAgSIGN VISARGA SVARITAtUDATTAlREVERSED VISARGA UDATTAlVISARGA A",
     "NUDATTAlREVERSED VISARGA ANUDATTAlVISARGA UDATTA WITH TAILtANUDATTA WITH TAILlANUSVARA ANTAR",
     "GOMUKHAuBAHIRGOMUKHAuVAMAGOMUKHAzg WITH TAILlTIRYAKlHEXIFORM LONG ANUSVARAlLONG ANUSVARAlRTH",
     "ANG LONG ANUSVARAlANUSVARA UBHAYATO MUKHAmRDHAVISARGAlROTATED ARDHAVISARGAgTONE CANDRA ABOVE",
     "gSIGN JIHVAMULIYAlUPADHMANIYAlATIKRAMAgTONE RING ABOVElDOUBLE RING ABOVEgSIGN DOUBLE ANUSVAR",
     "A ANTARGOMUKHA"]⟩,
   ⟨7424, ["aLATIN LETTER SMALL CAPITAL AzdEgSMALL LETTER TURNED AEgLETTER SMALL CAPITAL BARRED Bz",
     "cCzcDzcETHzdgSMALL LETTER TURNED OPEN EzbIgLETTER SMALL CAPITAL JzcKzcL WITH STROKEzcMzcREVE",
     "RSED NzcOzdPEN OgSMALL LETTER SIDEWAYS OzePEN Oze WITH STROKEtTURNED OEgLETTER SMALL CAPITAL",
     " OUgSMALL LETTER TOP HALF OtBOTTOM HALF OgLETTER SMALL CAPITAL PzcREVERSED RzcTURNED RzdzcUg",
     "SMALL LETTER SIDEWAYS UzdDIAERESIZED UzdTURNED MgLETTER SMALL CAPITAL VzcWzcZzcEZHnVOICED LA",
     "RYNGEAL SPIRANTnAINaGREEK LETTER SMALL CAPITAL GAMMAzcLAMDAzcPIzcRHOzcPSIaCYRILLIC LETTER SM",
     "ALL CAPITAL ELaMODIFIER LETTER CAPITAL AzaEyBzaARRED ByDyEyREVERSED EyGyHyIyJyKyLyMyNyREVERS",
     "ED NyOzaUyPyRyTyUyWqSMALL AwTURNED AwALPHAwTURNED AEwBwDwEwSCHWAwOPEN EwTURNED OPEN EwGwTURN",
     "ED IwKwMwENGwOxPEN OwTOP HALF OwBOTTOM HALF OwPwTwUwSIDEWAYS UwTURNED MwVwAINwBETAwGREEK GAM",
     "MAwDELTAwGREEK PHIwCHIaLATIN SUBSCRIPT SMALL LETTER IzeRzeUzeVaGREEK SUBSCRIPT SMALL LETTER ",
     "BETAzeGAMMAzeRHOzePHIzeCHIaLATIN SMALL LETTER UEtB WITH MIDDLE TILDEtD WITH MIDDLE TILDEtF W",
     "ITH MIDDLE TILDEtM WITH MIDDLE TILDEtN WITH MIDDLE TILDEtP WITH MIDDLE TILDEtR WITH MIDDLE T",
     "ILDEzbFISHHOOK AND MIDDLE TILDEtS WITH MIDDLE TILDEtT WITH MIDDLE TILDEtZ WITH MIDDLE TILDEt",
     "TURNED GaMODIFIER LETTER CYRILLIC ENaLATIN SMALL LETTER INSULAR GtTH WITH STRIKETHROUGHmCAPI",
     "TAL LETTER I WITH STROKEmLETTER IOTA WITH STROKEtP WITH STROKEmCAPITAL LETTER U WITH STROKEm",
     "LETTER UPSILON WITH STROKEtB WITH PALATAL HOOKtD WITH PALATAL HOOKtF WITH PALATAL HOOKtG WIT",
     "H PALATAL HOOKtK WITH PALATAL HOOKtL WITH PALATAL HOOKtM WITH PALATAL HOOKtN WITH PALATAL HO",
     "OKtP WITH PALATAL HOOKtR WITH PALATAL HOOKtS WITH PALATAL HOOKtESH WITH PALATAL HOOKtV WITH ",
     "PALATAL HOOKtX WITH PALATAL HOOKtZ WITH PALATAL HOOKtA WITH RETROFLEX HOOKuLPHA WITH RETROFL",
     "EX HOOKtD WITH HOOK AND TAILtE WITH RETROFLEX HOOKtOPEN E WITH RETROFLEX HOOKtREVERSED OPEN ",
     "E WITH RETROFLEX HOOKtSCHWA WITH RETROFLEX HOOKtI WITH RETROFLEX HOOKtOPEN O WITH RETROFLEX ",
     "HOOKtESH WITH RETROFLEX HOOKtU WITH RETROFLEX HOOKtEZH WITH RETROFLEX HOOKaMODIFIER LETTER S",
     "MALL TURNED ALPHAwCx WITH CURLwETHwREVERSED OPEN EwFwDOTLESS J WITH STROKEwSCRIPT GwTURNED H",
     "wI WITH STROKExOTAwCAPITAL Izg WITH STROKEwJ WITH CROSSED-TAILwL WITH RETROFLEX HOOKzePALATA",
     "L HOOKwCAPITAL LwM WITH HOOKwTURNED M WITH LONG LEGwN WITH LEFT HOOKzeRETROFLEX HOOKwCAPITAL",
     " NwBARRED OwPHIwS WITH HOOKwESHwT WITH PALATAL HOOKwU BARxPSILONwCAPITAL UwV WITH HOOKwTURNE",
     "D VwZx WITH RETROFLEX HOOKzeCURLwEZHwTHETAaCOMBINING DOTTED GRAVE ACCENTrACUTE ACCENTkSNAKE ",
     "BELOWlUSPENSION MARKkMACRON-ACUTEkGRAVE-MACRONkMACRON-GRAVEkACUTE-MACRONkGRAVE-ACUTE-GRAVEkA",
     "CUTE-GRAVE-ACUTEkLATIN SMALL LETTER R BELOWkBREVE-MACRONkMACRON-BREVEkDOUBLE CIRCUMFLEX ABOV",
     "EkOGONEK ABOVEkZIGZAG BELOWkIS BELOWkUR ABOVElS ABOVEkLATIN SMALL LETTER FLATTENED OPEN A AB",
     "OVEzeAEzfOzfVzeC CEDILLAzeINSULAR DzeETHzeGqLETTER SMALL CAPITAL GqSMALL LETTER KzeLqLETTER ",
     "SMALL CAPITAL LzmMqSMALL LETTER NqLETTER SMALL CAPITAL NzmRqSMALL LETTER R ROTUNDAzeSzeLONG ",
     "SzeZzeALPHAzeBzfETAzeSCHWAzeFzeL WITH DOUBLE MIDDLE TILDEzeO WITH LIGHT CENTRALIZATION STROK",
     "EzePzeESHzeU WITH LIGHT CENTRALIZATION STROKEzeWzeA WITH DIAERESISzeO WITH DIAERESISzeU WITH",
     " DIAERESISkUP TACK ABOVEkKAVYKA ABOVE RIGHTxLEFTkDOT ABOVE LEFTkWIDE INVERTED BRIDGE BELOWkD",
     "OT BELOW LEFTlELETION MARKlOUBLE INVERTED BREVE BELOWkALMOST EQUAL TO BELOWkLEFT ARROWHEAD A",
     "BOVEkRIGHT ARROWHEAD AND DOWN ARROWHEAD BELOWaLATIN CAPITAL LETTER A WITH RING BELOWgSMALL L",
     "ETTER A WITH RING BELOWgCAPITAL LETTER B WITH DOT ABOVEgSMALL LETTER B WITH DOT ABOVEgCAPITA",
     "L LETTER B WITH DOT BELOWgSMALL LETTER B WITH DOT BELOWgCAPITAL LETTER B WITH LINE BELOWgSMA",
     "LL LETTER B WITH LINE BELOWgCAPITAL LETTER C WITH CEDILLA AND ACUTEgSMALL LETTER C WITH CEDI",
     "LLA AND ACUTEgCAPITAL LETTER D WITH DOT ABOVEgSMALL LETTER D WITH DOT ABOVEgCAPITAL LETTER D",
     " WITH DOT BELOWgSMALL LETTER D WITH DOT BELOWgCAPITAL LETTER D WITH LINE BELOWgSMALL LETTER ",
     "D WITH LINE BELOWgCAPITAL LETTER D WITH CEDILLAgSMALL LETTER D WITH CEDILLAgCAPITAL LETTER D",
     " WITH CIRCUMFLEX BELOWgSMALL LETTER D WITH CIRCUMFLEX BELOWgCAPITAL LETTER E WITH MACRON AND",
     " GRAVEgSMALL LETTER E WITH MACRON AND GRAVEgCAPITAL LETTER E WITH MACRON AND ACUTEgSMALL LET",
     "TER E WITH MACRON AND ACUTEgCAPITAL LETTER E WITH CIRCUMFLEX BELOWgSMALL LETTER E WITH CIRCU",
     "MFLEX BELOWgCAPITAL LETTER E WITH TILDE BELOWgSMALL LETTER E WITH TILDE BELOWgCAPITAL LETTER",
     " E WITH CEDILLA AND BREVEgSMALL LETTER E WITH CEDILLA AND BREVEgCAPITAL LETTER F WITH DOT AB",
     "OVEgSMALL LETTER F WITH DOT ABOVEgCAPITAL LETTER G WITH MACRONgSMALL LETTER G WITH MACRONgCA",
     "PITAL LETTER H WITH DOT ABOVEgSMALL LETTER H WITH DOT ABOVEgCAPITAL LETTER H WITH DOT BELOWg",
     "SMALL LETTER H WITH DOT BELOWgCAPITAL LETTER H WITH DIAERESISgSMALL LETTER H WITH DIAERESISg",
     "CAPITAL LETTER H WITH CEDILLAgSMALL LETTER H WITH CEDILLAgCAPITAL LETTER H WITH BREVE BELOWg",
     "SMALL LETTER H WITH BREVE BELOWgCAPITAL LETTER I WITH TILDE BELOWgSMALL LETTER I WITH TILDE ",
     "BELOWgCAPITAL LETTER I WITH DIAERESIS AND ACUTEgSMALL LETTER I WITH DIAERESIS AND ACUTEgCAPI",
     "TAL LETTER K WITH ACUTEgSMALL LETTER K WITH ACUTEgCAPITAL LETTER K WITH DOT BELOWgSMALL LETT",
     "ER K WITH DOT BELOWgCAPITAL LETTER K WITH LINE BELOWgSMALL LETTER K WITH LINE BELOWgCAPITAL ",
     "LETTER L WITH DOT BELOWgSMALL LETTER L WITH DOT BELOWgCAPITAL LETTER L WITH DOT BELOW AND MA",
     "CRONgSMALL LETTER L WITH DOT BELOW AND MACRONgCAPITAL LETTER L WITH LINE BELOWgSMALL LETTER ",
     "L WITH LINE BELOWgCAPITAL LETTER L WITH CIRCUMFLEX BELOWgSMALL LETTER L WITH CIRCUMFLEX BELO",
     "WgCAPITAL LETTER M WITH ACUTEgSMALL LETTER M WITH ACUTEgCAPITAL LETTER M WITH DOT ABOVEgSMAL",
     "L LETTER M WITH DOT ABOVEgCAPITAL LETTER M WITH DOT BELOWgSMALL LETTER M WITH DOT BELOWgCAPI",
     "TAL LETTER N WITH DOT ABOVEgSMALL LETTER N WITH DOT ABOVEgCAPITAL LETTER N WITH DOT BELOWgSM",
     "ALL LETTER N WITH DOT BELOWgCAPITAL LETTER N WITH LINE BELOWgSMALL LETTER N WITH LINE BELOWg",
     "CAPITAL LETTER N WITH CIRCUMFLEX BELOWgSMALL LETTER N WITH CIRCUMFLEX BELOWgCAPITAL LETTER O",
     " WITH TILDE AND ACUTEgSMALL LETTER O WITH TILDE AND ACUTEgCAPITAL LETTER O WITH TILDE AND DI",
     "AERESISgSMALL LETTER O WITH TILDE AND DIAERESISgCAPITAL LETTER O WITH MACRON AND GRAVEgSMALL",
     " LETTER O WITH MACRON AND GRAVEgCAPITAL LETTER O WITH MACRON AND ACUTEgSMALL LETTER O WITH M",
     "ACRON AND ACUTEgCAPITAL LETTER P WITH ACUTEgSMALL LETTER P WITH ACUTEgCAPITAL LETTER P WITH ",
     "DOT ABOVEgSMALL LETTER P WITH DOT ABOVEgCAPITAL LETTER R WITH DOT ABOVEgSMALL LETTER R WITH ",
     "DOT ABOVEgCAPITAL LETTER R WITH DOT BELOWgSMALL LETTER R WITH DOT BELOWgCAPITAL LETTER R WIT",
     "H DOT BELOW AND MACRONgSMALL LETTER R WITH DOT BELOW AND MACRONgCAPITAL LETTER R WITH LINE B",
     "ELOWgSMALL LETTER R WITH LINE BELOWgCAPITAL LETTER S WITH DOT ABOVEgSMALL LETTER S WITH DOT ",
     "ABOVEgCAPITAL LETTER S WITH DOT BELOWgSMALL LETTER S WITH DOT BELOWgCAPITAL LETTER S WITH AC",
     "UTE AND DOT ABOVEgSMALL LETTER S WITH ACUTE AND DOT ABOVEgCAPITAL LETTER S WITH CARON AND DO",
     "T ABOVEgSMALL LETTER S WITH CARON AND DOT ABOVEgCAPITAL LETTER S WITH DOT BELOW AND DOT ABOV",
     "EgSMALL LETTER S WITH DOT BELOW AND DOT ABOVEgCAPITAL LETTER T WITH DOT ABOVEgSMALL LETTER T",
     " WITH DOT ABOVEgCAPITAL LETTER T WITH DOT BELOWgSMALL LETTER T WITH DOT BELOWgCAPITAL LETTER",
     " T WITH LINE BELOWgSMALL LETTER T WITH LINE BELOWgCAPITAL LETTER T WITH CIRCUMFLEX BELOWgSMA",
     "LL LETTER T WITH CIRCUMFLEX BELOWgCAPITAL LETTER U WITH DIAERESIS BELOWgSMALL LETTER U WITH ",
     "DIAERESIS BELOWgCAPITAL LETTER U WITH TILDE BELOWgSMALL LETTER U WITH TILDE BELOWgCAPITAL LE",
     "TTER U WITH CIRCUMFLEX BELOWgSMALL LETTER U WITH CIRCUMFLEX BELOWgCAPITAL LETTER U WITH TILD",
     "E AND ACUTEgSMALL LETTER U WITH TILDE AND ACUTEgCAPITAL LETTER U WITH MACRON AND DIAERESISgS",
     "MALL LETTER U WITH MACRON AND DIAERESISgCAPITAL LETTER V WITH TILDEgSMALL LETTER V WITH TILD",
     "EgCAPITAL LETTER V WITH DOT BELOWgSMALL LETTER V WITH DOT BELOWgCAPITAL LETTER W WITH GRAVEg",
     "SMALL LETTER W WITH GRAVEgCAPITAL LETTER W WITH ACUTEgSMALL LETTER W WITH ACUTEgCAPITAL LETT",
     "ER W WITH DIAERESISgSMALL LETTER W WITH DIAERESISgCAPITAL LETTER W WITH DOT ABOVEgSMALL LETT",
     "ER W WITH DOT ABOVEgCAPITAL LETTER W WITH DOT BELOWgSMALL LETTER W WITH DOT BELOWgCAPITAL LE",
     "TTER X WITH DOT ABOVEgSMALL LETTER X WITH DOT ABOVEgCAPITAL LETTER X WITH DIAERESISgSMALL LE",
     "TTER X WITH DIAERESISgCAPITAL LETTER Y WITH DOT ABOVEgSMALL LETTER Y WITH DOT ABOVEgCAPITAL ",
     "LETTER Z WITH CIRCUMFLEXgSMALL LETTER Z WITH CIRCUMFLEXgCAPITAL LETTER Z WITH DOT BELOWgSMAL",
     "L LETTER Z WITH DOT BELOWgCAPITAL LETTER Z WITH LINE BELOWgSMALL LETTER Z WITH LINE BELOWtH ",
     "WITH LINE BELOWtT WITH DIAERESIStW WITH RING ABOVEtY WITH RING ABOVEtA WITH RIGHT HALF RINGt",
     "LONG S WITH DOT ABOVEzhIAGONAL STROKEzgHIGH STROKEgCAPITAL LETTER SHARP SgSMALL LETTER DELTA",
     "gCAPITAL LETTER A WITH DOT BELOWgSMALL LETTER A WITH DOT BELOWgCAPITAL LETTER A WITH HOOK AB",
     "OVEgSMALL LETTER A WITH HOOK ABOVEgCAPITAL LETTER A WITH CIRCUMFLEX AND ACUTEgSMALL LETTER A",
     " WITH CIRCUMFLEX AND ACUTEgCAPITAL LETTER A WITH CIRCUMFLEX AND GRAVEgSMALL LETTER A WITH CI",
     "RCUMFLEX AND GRAVEgCAPITAL LETTER A WITH CIRCUMFLEX AND HOOK ABOVEgSMALL LETTER A WITH CIRCU",
     "MFLEX AND HOOK ABOVEgCAPITAL LETTER A WITH CIRCUMFLEX AND TILDEgSMALL LETTER A WITH CIRCUMFL",
     "EX AND TILDEgCAPITAL LETTER A WITH CIRCUMFLEX AND DOT BELOWgSMALL LETTER A WITH CIRCUMFLEX A",
     "ND DOT BELOWgCAPITAL LETTER A WITH BREVE AND ACUTEgSMALL LETTER A WITH BREVE AND ACUTEgCAPIT",
     "AL LETTER A WITH BREVE AND GRAVEgSMALL LETTER A WITH BREVE AND GRAVEgCAPITAL LETTER A WITH B",
     "REVE AND HOOK ABOVEgSMALL LETTER A WITH BREVE AND HOOK ABOVEgCAPITAL LETTER A WITH BREVE AND",
     " TILDEgSMALL LETTER A WITH BREVE AND TILDEgCAPITAL LETTER A WITH BREVE AND DOT BELOWgSMALL L",
     "ETTER A WITH BREVE AND DOT BELOWgCAPITAL LETTER E WITH DOT BELOWgSMALL LETTER E WITH DOT BEL",
     "OWgCAPITAL LETTER E WITH HOOK ABOVEgSMALL LETTER E WITH HOOK ABOVEgCAPITAL LETTER E WITH TIL",
     "DEgSMALL LETTER E WITH TILDEgCAPITAL LETTER E WITH CIRCUMFLEX AND ACUTEgSMALL LETTER E WITH ",
     "CIRCUMFLEX AND ACUTEgCAPITAL LETTER E WITH CIRCUMFLEX AND GRAVEgSMALL LETTER E WITH CIRCUMFL",
     "EX AND GRAVEgCAPITAL LETTER E WITH CIRCUMFLEX AND HOOK ABOVEgSMALL LETTER E WITH CIRCUMFLEX ",
     "AND HOOK ABOVEgCAPITAL LETTER E WITH CIRCUMFLEX AND TILDEgSMALL LETTER E WITH CIRCUMFLEX AND",
     " TILDEgCAPITAL LETTER E WITH CIRCUMFLEX AND DOT BELOWgSMALL LETTER E WITH CIRCUMFLEX AND DOT",
     " BELOWgCAPITAL LETTER I WITH HOOK ABOVEgSMALL LETTER I WITH HOOK ABOVEgCAPITAL LETTER I WITH",
     " DOT BELOWgSMALL LETTER I WITH DOT BELOWgCAPITAL LETTER O WITH DOT BELOWgSMALL LETTER O WITH",
     " DOT BELOWgCAPITAL LETTER O WITH HOOK ABOVEgSMALL LETTER O WITH HOOK ABOVEgCAPITAL LETTER O ",
     "WITH CIRCUMFLEX AND ACUTEgSMALL LETTER O WITH CIRCUMFLEX AND ACUTEgCAPITAL LETTER O WITH CIR",
     "CUMFLEX AND GRAVEgSMALL LETTER O WITH CIRCUMFLEX AND GRAVEgCAPITAL LETTER O WITH CIRCUMFLEX ",
     "AND HOOK ABOVEgSMALL LETTER O WITH CIRCUMFLEX AND HOOK ABOVEgCAPITAL LETTER O WITH CIRCUMFLE",
     "X AND TILDEgSMALL LETTER O WITH CIRCUMFLEX AND TILDEgCAPITAL LETTER O WITH CIRCUMFLEX AND DO",
     "T BELOWgSMALL LETTER O WITH CIRCUMFLEX AND DOT BELOWgCAPITAL LETTER O WITH HORN AND ACUTEgSM",
     "ALL LETTER O WITH HORN AND ACUTEgCAPITAL LETTER O WITH HORN AND GRAVEgSMALL LETTER O WITH HO",
     "RN AND GRAVEgCAPITAL LETTER O WITH HORN AND HOOK ABOVEgSMALL LETTER O WITH HORN AND HOOK ABO",
     "VEgCAPITAL LETTER O WITH HORN AND TILDEgSMALL LETTER O WITH HORN AND TILDEgCAPITAL LETTER O ",
     "WITH HORN AND DOT BELOWgSMALL LETTER O WITH HORN AND DOT BELOWgCAPITAL LETTER U WITH DOT BEL",
     "OWgSMALL LETTER U WITH DOT BELOWgCAPITAL LETTER U WITH HOOK ABOVEgSMALL LETTER U WITH HOOK A",
     "BOVEgCAPITAL LETTER U WITH HORN AND ACUTEgSMALL LETTER U WITH HORN AND ACUTEgCAPITAL LETTER ",
     "U WITH HORN AND GRAVEgSMALL LETTER U WITH HORN AND GRAVEgCAPITAL LETTER U WITH HORN AND HOOK",
     " ABOVEgSMALL LETTER U WITH HORN AND HOOK ABOVEgCAPITAL LETTER U WITH HORN AND TILDEgSMALL LE",
     "TTER U WITH HORN AND TILDEgCAPITAL LETTER U WITH HORN AND DOT BELOWgSMALL LETTER U WITH HORN",
     " AND DOT BELOWgCAPITAL LETTER Y WITH GRAVEgSMALL LETTER Y WITH GRAVEgCAPITAL LETTER Y WITH D",
     "OT BELOWgSMALL LETTER Y WITH DOT BELOWgCAPITAL LETTER Y WITH HOOK ABOVEgSMALL LETTER Y WITH ",
     "HOOK ABOVEgCAPITAL LETTER Y WITH TILDEgSMALL LETTER Y WITH TILDEgCAPITAL LETTER MIDDLE-WELSH",
     " LLgSMALL LETTER MIDDLE-WELSH LLgCAPITAL LETTER MIDDLE-WELSH VgSMALL LETTER MIDDLE-WELSH VgC",
     "APITAL LETTER Y WITH LOOPgSMALL LETTER Y WITH LOOPaGREEK SMALL LETTER ALPHA WITH PSILIzfDASI",
     "AzfPSILI AND VARIAzfDASIA AND VARIAzfPSILI AND OXIAzfDASIA AND OXIAzfPSILI AND PERISPOMENIzf",
     "DASIA AND PERISPOMENIgCAPITAL LETTER ALPHA WITH PSILIzhDASIAzhPSILI AND VARIAzhDASIA AND VAR",
     "IAzhPSILI AND OXIAzhDASIA AND OXIAzhPSILI AND PERISPOMENIzhDASIA AND PERISPOMENIgSMALL LETTE",
     "R EPSILON WITH PSILIzhDASIAzhPSILI AND VARIAzhDASIA AND VARIAzhPSILI AND OXIAzhDASIA AND OXI",
     "A"]⟩,
   ⟨7960, ["aGREEK CAPITAL LETTER EPSILON WITH PSILIzjDASIAzjPSILI AND VARIAzjDASIA AND VARIAzjPSI",
     "LI AND OXIAzjDASIA AND OXIA"]⟩,
   ⟨7968, ["aGREEK SMALL LETTER ETA WITH PSILIzdDASIAzdPSILI AND VARIAzdDASIA AND VARIAzdPSILI AND",
     " OXIAzdDASIA AND OXIAzdPSILI AND PERISPOMENIzdDASIA AND PERISPOMENIgCAPITAL LETTER ETA WITH ",
     "PSILIzfDASIAzfPSILI AND VARIAzfDASIA AND VARIAzfPSILI AND OXIAzfDASIA AND OXIAzfPSILI AND PE",
     "RISPOMENIzfDASIA AND PERISPOMENIgSMALL LETTER IOTA WITH PSILIzeDASIAzePSILI AND VARIAzeDASIA",
     " AND VARIAzePSILI AND OXIAzeDASIA AND OXIAzePSILI AND PERISPOMENIzeDASIA AND PERISPOMENIgCAP",
     "ITAL LETTER IOTA WITH PSILIzgDASIAzgPSILI AND VARIAzgDASIA AND VARIAzgPSILI AND OXIAzgDASIA ",
     "AND OXIAzgPSILI AND PERISPOMENIzgDASIA AND PERISPOMENIgSMALL LETTER OMICRON WITH PSILIzhDASI",
     "AzhPSILI AND VARIAzhDASIA AND VARIAzhPSILI AND OXIAzhDASIA AND OXIA"]⟩,
   ⟨8008, ["aGREEK CAPITAL LETTER OMICRON WITH PSILIzjDASIAzjPSILI AND VARIAzjDASIA AND VARIAzjPSI",
     "LI AND OXIAzjDASIA AND OXIA"]⟩,
   ⟨8016, ["aGREEK SMALL LETTER UPSILON WITH PSILIzhDASIAzhPSILI AND VARIAzhDASIA AND VARIAzhPSILI",
     " AND OXIAzhDASIA AND OXIAzhPSILI AND PERISPOMENIzhDASIA AND PERISPOMENI"]⟩,
   ⟨8025, ["aGREEK CAPITAL LETTER UPSILON WITH DASIA"]⟩,
   ⟨8027, ["aGREEK CAPITAL LETTER UPSILON WITH DASIA AND VARIA"]⟩,
   ⟨8029, ["aGREEK CAPITAL LETTER UPSILON WITH DASIA AND OXIA"]⟩,
   ⟨8031, ["aGREEK CAPITAL LETTER UPSILON WITH DASIA AND PERISPOMENIgSMALL LETTER OMEGA WITH PSILI",
     "zfDASIAzfPSILI AND VARIAzfDASIA AND VARIAzfPSILI AND OXIAzfDASIA AND OXIAzfPSILI AND PERISPO",
     "MENIzfDASIA AND PERISPOMENIgCAPITAL LETTER OMEGA WITH PSILIzhDASIAzhPSILI AND VARIAzhDASIA A",
     "ND VARIAzhPSILI AND OXIAzhDASIA AND OXIAzhPSILI AND PERISPOMENIzhDASIA AND PERISPOMENIgSMALL",
     " LETTER ALPHA WITH VARIAzfOXIAtEPSILON WITH VARIAzhOXIAuTA WITH VARIAzdOXIAtIOTA WITH VARIAz",
     "eOXIAtOMICRON WITH VARIAzhOXIAtUPSILON WITH VARIAzhOXIAtOMEGA WITH VARIAzfOXIA"]⟩,
   ⟨8064, ["aGREEK SMALL LETTER ALPHA WITH PSILI AND YPOGEGRAMMENIzfDASIA AND YPOGEGRAMMENIzfPSILI",
     " AND VARIA AND YPOGEGRAMMENIzfDASIA AND VARIA AND YPOGEGRAMMENIzfPSILI AND OXIA AND YPOGEGRA",
     "MMENIzfDASIA AND OXIA AND YPOGEGRAMMENIzfPSILI AND PERISPOMENI AND YPOGEGRAMMENIzfDASIA AND ",
     "PERISPOMENI AND YPOGEGRAMMENIgCAPITAL LETTER ALPHA WITH PSILI AND PROSGEGRAMMENIzhDASIA AND ",
     "PROSGEGRAMMENIzhPSILI AND VARIA AND PROSGEGRAMMENIzhDASIA AND VARIA AND PROSGEGRAMMENIzhPSIL",
     "I AND OXIA AND PROSGEGRAMMENIzhDASIA AND OXIA AND PROSGEGRAMMENIzhPSILI AND PERISPOMENI AND ",
     "PROSGEGRAMMENIzhDASIA AND PERISPOMENI AND PROSGEGRAMMENIgSMALL LETTER ETA WITH PSILI AND YPO",
     "GEGRAMMENIzdDASIA AND YPOGEGRAMMENIzdPSILI AND VARIA AND YPOGEGRAMMENIzdDASIA AND VARIA AND ",
     "YPOGEGRAMMENIzdPSILI AND OXIA AND YPOGEGRAMMENIzdDASIA AND OXIA AND YPOGEGRAMMENIzdPSILI AND",
     " PERISPOMENI AND YPOGEGRAMMENIzdDASIA AND PERISPOMENI AND YPOGEGRAMMENIgCAPITAL LETTER ETA W",
     "ITH PSILI AND PROSGEGRAMMENIzfDASIA AND PROSGEGRAMMENIzfPSILI AND VARIA AND PROSGEGRAMMENIzf",
     "DASIA AND VARIA AND PROSGEGRAMMENIzfPSILI AND OXIA AND PROSGEGRAMMENIzfDASIA AND OXIA AND PR",
     "OSGEGRAMMENIzfPSILI AND PERISPOMENI AND PROSGEGRAMMENIzfDASIA AND PERISPOMENI AND PROSGEGRAM",
     "MENIgSMALL LETTER OMEGA WITH PSILI AND YPOGEGRAMMENIzfDASIA AND YPOGEGRAMMENIzfPSILI AND VAR",
     "IA AND YPOGEGRAMMENIzfDASIA AND VARIA AND YPOGEGRAMMENIzfPSILI AND OXIA AND YPOGEGRAMMENIzfD",
     "ASIA AND OXIA AND YPOGEGRAMMENIzfPSILI AND PERISPOMENI AND YPOGEGRAMMENIzfDASIA AND PERISPOM",
     "ENI AND YPOGEGRAMMENIgCAPITAL LETTER OMEGA WITH PSILI AND PROSGEGRAMMENIzhDASIA AND PROSGEGR",
     "AMMENIzhPSILI AND VARIA AND PROSGEGRAMMENIzhDASIA AND VARIA AND PROSGEGRAMMENIzhPSILI AND OX",
     "IA AND PROSGEGRAMMENIzhDASIA AND OXIA AND PROSGEGRAMMENIzhPSILI AND PERISPOMENI AND PROSGEGR",
     "AMMENIzhDASIA AND PERISPOMENI AND PROSGEGRAMMENIgSMALL LETTER ALPHA WITH VRACHYzfMACRONzfVAR",
     "IA AND YPOGEGRAMMENIzfYPOGEGRAMMENIzfOXIA AND YPOGEGRAMMENI"]⟩,
   ⟨8118, ["aGREEK SMALL LETTER ALPHA WITH PERISPOMENIzq AND YPOGEGRAMMENIgCAPITAL LETTER ALPHA WI",
     "TH VRACHYzhMACRONzhVARIAzhOXIAzhPROSGEGRAMMENIgKORONISgPROSGEGRAMMENIhSILIhERISPOMENIgDIALYT",
     "IKA AND PERISPOMENIgSMALL LETTER ETA WITH VARIA AND YPOGEGRAMMENIzdYPOGEGRAMMENIzdOXIA AND Y",
     "POGEGRAMMENI"]⟩,
   ⟨8134, ["aGREEK SMALL LETTER ETA WITH PERISPOMENIzo AND YPOGEGRAMMENIgCAPITAL LETTER EPSILON WI",
     "TH VARIAzjOXIAwTA WITH VARIAzfOXIAzfPROSGEGRAMMENIgPSILI AND VARIAqOXIAqPERISPOMENIgSMALL LE",
     "TTER IOTA WITH VRACHYzeMACRONzeDIALYTIKA AND VARIAzsOXIA"]⟩,
   ⟨8150, ["aGREEK SMALL LETTER IOTA WITH PERISPOMENIzeDIALYTIKA AND PERISPOMENIgCAPITAL LETTER IO",
     "TA WITH VRACHYzgMACRONzgVARIAzgOXIA"]⟩,
   ⟨8157, ["aGREEK DASIA AND VARIAqOXIAqPERISPOMENIgSMALL LETTER UPSILON WITH VRACHYzhMACRONzhDIAL",
     "YTIKA AND VARIAzvOXIAtRHO WITH PSILIzdDASIAtUPSILON WITH PERISPOMENIzhDIALYTIKA AND PERISPOM",
     "ENIgCAPITAL LETTER UPSILON WITH VRACHYzjMACRONzjVARIAzjOXIAvRHO WITH DASIAgDIALYTIKA AND VAR",
     "IAuOXIAgVARIA"]⟩,
   ⟨8178, ["aGREEK SMALL LETTER OMEGA WITH VARIA AND YPOGEGRAMMENIzfYPOGEGRAMMENIzfOXIA AND YPOGEG",
     "RAMMENI"]⟩,
   ⟨8182, ["aGREEK SMALL LETTER OMEGA WITH PERISPOMENIzq AND YPOGEGRAMMENIgCAPITAL LETTER OMICRON ",
     "WITH VARIAzjOXIAxEGA WITH VARIAzhOXIAzhPROSGEGRAMMENIgOXIAgDASIA"]⟩]

end FixedExtract.Text
